import VectorTable.Proofs.Schema.Resolved
import VectorTable.Proofs.Sql.CreatedTable
import VectorTable.Schema.Create

/-!
# Tables that are created

Creating a table and resolving a schema against a table are written apart from each other, and so are the statements that fill and read the columns. Here the statement that creates the table of a schema is read back as the table it defines, with the types that the database tells of its columns, and the schema is resolved against that: nothing is found to be missing, nothing changes but a JSON column that was not wanted, and the columns of the resolved schema are those of the table.
-/

namespace VectorTable

open Sql

theorem vectorSize?_int_eq_ok_iff {size : Int} {n : Nat} :
    vectorSize? (.int size) = .ok n ↔ size = n ∧ 0 < n := by
  match size with
  | .ofNat 0 => simp [vectorSize?]; omega
  | .ofNat (k + 1) => simp [vectorSize?]; omega
  | .negSucc k => simp [vectorSize?]

namespace Schema

variable (s : Schema)

/-! ### The table of a schema -/

def wantedJsonColumn (storeMetadata : Bool) : Option String :=
  if storeMetadata then s.jsonColumn else none

def columnTexts (size : Nat) (typed : List TypedColumn) (json : Option String) :
    List (String × String) :=
  [(s.idColumn, "UUID PRIMARY KEY"), (s.contentColumn, "TEXT NULL"),
    (s.embeddingColumn, "vector(" ++ toString size ++ ") NOT NULL")]
    ++ typed.map (fun column =>
      (column.name, column.dataType ++ if column.nullable then "" else " NOT NULL"))
    ++ json.toList.map fun name => (name, "JSON")

/-- The statement for these columns: their definitions between brackets, after the name of the table. -/
def createPieces (size : Nat) (typed : List TypedColumn) (json : Option String) : List Piece :=
  [.raw "CREATE TABLE ", .name s.schema, .raw ".", .name s.table, .raw " ("]
    ++ separated ", " ((s.columnTexts size typed json).map Sql.definition) ++ [.raw ")"]

theorem columnDefinitions_eq (size : Nat) (typed : List TypedColumn) (storeMetadata : Bool) :
    s.columnDefinitions size typed storeMetadata =
      (s.columnTexts size typed (s.wantedJsonColumn storeMetadata)).map Sql.definition := by
  have hvector : ∀ text, " vector(" ++ text = " " ++ ("vector(" ++ text) := by
    intro text
    rw [← String.append_assoc]
    rfl
  cases storeMetadata <;>
    simp [columnDefinitions, columnTexts, wantedJsonColumn, TypedColumn.definition,
      Sql.definition, hvector, String.append_assoc, Function.comp_def]

/-- A table can be created if its size is a positive whole number and all metadata columns are typed. -/
theorem createTable_eq_ok_iff {size : Value} {storeMetadata : Bool} {pieces : List Piece} :
    s.createTable size storeMetadata = .ok pieces ↔
      ∃ n typed, vectorSize? size = .ok n ∧ s.metadataColumns = typed.map .typed ∧
        pieces = s.createPieces n typed (s.wantedJsonColumn storeMetadata) := by
  constructor
  · intro h
    obtain ⟨n, hsize, h⟩ := bind_eq_ok_iff.mp h
    obtain ⟨typed, htyped, h⟩ := bind_eq_ok_iff.mp h
    have hmetadata : s.metadataColumns.map id = typed.map .typed := by
      apply map_eq_map_of_mapM ?_ htyped
      intro column result hcolumn
      cases column with
      | named name => cases hcolumn
      | typed column =>
        cases hcolumn
        rfl
    rw [List.map_id] at hmetadata
    refine ⟨n, typed, hsize, hmetadata, ?_⟩
    rw [← Except.ok.inj h, columnDefinitions_eq]
    rfl
  · rintro ⟨n, typed, hsize, htyped, rfl⟩
    have hmapped : (typed.map MetadataColumn.typed).mapM MetadataColumn.typed? = .ok typed := by
      rw [List.mapM_map]
      exact List.mapM_pure.trans (congrArg Except.ok (List.map_id typed))
    rw [createTable, hsize, htyped, hmapped]
    show Except.ok _ = _
    rw [columnDefinitions_eq]
    rfl

theorem isComplete_of_mem_columnTexts {n : Nat} {typed : List TypedColumn} {json : Option String}
    (htypes : ∀ column ∈ typed, isComplete column.dataType.toList = true)
    {column : String × String} (hcolumn : column ∈ s.columnTexts n typed json) :
    isComplete column.2.toList = true := by
  simp only [columnTexts, List.cons_append, List.nil_append, List.mem_cons, List.mem_append,
    List.mem_map] at hcolumn
  rcases hcolumn with rfl | rfl | rfl | ⟨declared, hdeclared, rfl⟩ | ⟨name, -, rfl⟩
  · show isComplete "UUID PRIMARY KEY".toList = true
    decide
  · show isComplete "TEXT NULL".toList = true
    decide
  · exact isComplete_vector n
  · have hcomplete := htypes declared hdeclared
    have hspace : " NOT NULL".toList = ' ' :: "NOT NULL".toList := by decide
    have hnull : isComplete "NOT NULL".toList = true := by decide
    show isComplete (declared.dataType ++ if declared.nullable then "" else " NOT NULL").toList = true
    split
    · rw [String.append_empty, hcomplete]
    · rw [String.toList_append, hspace, isComplete_append_space hcomplete, hnull]
  · show isComplete "JSON".toList = true
    decide

theorem map_fst_columnTexts (n : Nat) (typed : List TypedColumn) (json : Option String) :
    (s.columnTexts n typed json).map Prod.fst =
      s.reserved ++ typed.map TypedColumn.name ++ json.toList := by
  simp [columnTexts, Draft.reserved, Function.comp_def]

theorem nodup_columns (storeMetadata : Bool) :
    (s.reserved ++ s.metadataNames ++ (s.wantedJsonColumn storeMetadata).toList).Nodup := by
  have hfewer : (s.wantedJsonColumn storeMetadata).toList.Sublist s.jsonColumn.toList := by
    cases storeMetadata with
    | true => exact List.Sublist.refl _
    | false => exact List.nil_sublist _
  have hall := s.perm_insertColumns.nodup_iff.mp s.nodup_insertColumns
  exact hall.sublist ((List.Sublist.refl _).append hfewer)

/-! ### The created table -/

theorem presentJsonColumn_eq {storeMetadata : Bool} {columns : TableColumns}
    (hnames : columns.map Prod.fst =
      s.reserved ++ s.metadataNames ++ (s.wantedJsonColumn storeMetadata).toList) :
    s.presentJsonColumn columns = s.wantedJsonColumn storeMetadata := by
  cases hjson : s.jsonColumn with
  | none => cases storeMetadata <;> simp [presentJsonColumn, wantedJsonColumn, hjson]
  | some name =>
    obtain ⟨hreserved, hmetadata⟩ := s.notMem_of_jsonColumn hjson
    have hfound : (lookupName columns name).isSome = storeMetadata := by
      rw [Bool.eq_iff_iff, isSome_lookupName_iff, hnames]
      cases storeMetadata <;> simp [wantedJsonColumn, hjson, hreserved, hmetadata]
    rw [presentJsonColumn, wantedJsonColumn, hjson, Option.filter_some, hfound]

def createdColumns (other : String → String) (n : Nat) (typed : List TypedColumn)
    (json : Option String) : TableColumns :=
  (s.columnTexts n typed json).map fun column => (column.1, reportedType other (" " ++ column.2))

section Created

variable (other : String → String) (n : Nat) {typed : List TypedColumn}
  (htyped : s.metadataColumns = typed.map .typed) (storeMetadata : Bool)

include htyped

theorem map_fst_createdColumns :
    (s.createdColumns other n typed (s.wantedJsonColumn storeMetadata)).map Prod.fst =
      s.reserved ++ s.metadataNames ++ (s.wantedJsonColumn storeMetadata).toList := by
  have hmetadata : typed.map TypedColumn.name = s.metadataNames := by
    rw [Draft.metadataNames, htyped, List.map_map]
    rfl
  rw [createdColumns, List.map_map, ← hmetadata, ← map_fst_columnTexts s n]
  rfl

theorem nodup_createdColumns :
    ((s.createdColumns other n typed (s.wantedJsonColumn storeMetadata)).map Prod.fst).Nodup := by
  rw [s.map_fst_createdColumns other n htyped]
  exact s.nodup_columns storeMetadata

theorem lookupName_createdColumns {name text : String}
    (hcolumn : (name, text) ∈ s.columnTexts n typed (s.wantedJsonColumn storeMetadata)) :
    lookupName (s.createdColumns other n typed (s.wantedJsonColumn storeMetadata)) name =
      some (reportedType other (" " ++ text)) := by
  rw [lookupName_eq_some_iff (s.nodup_createdColumns other n htyped storeMetadata)]
  exact List.mem_map.mpr ⟨_, hcolumn, rfl⟩

theorem exists_resolve_createdColumns
    (hjson : ∀ name ∈ s.jsonColumn, Text.isBlankText name = false) :
    ∃ resolved, s.resolve (s.createdColumns other n typed (s.wantedJsonColumn storeMetadata)) none =
        .ok resolved ∧
      resolved.toDraft = { s.toDraft with jsonColumn := s.wantedJsonColumn storeMetadata } := by
  let columns := s.createdColumns other n typed (s.wantedJsonColumn storeMetadata)
  have hnames : columns.map Prod.fst =
      s.reserved ++ s.metadataNames ++ (s.wantedJsonColumn storeMetadata).toList :=
    s.map_fst_createdColumns other n htyped storeMetadata
  have hid : (lookupName columns s.idColumn).isSome := by
    rw [isSome_lookupName_iff, hnames]
    simp [Draft.reserved]
  have hcontent : lookupName columns s.contentColumn = some (.text "text") := by
    have hcolumn : (s.contentColumn, "TEXT NULL") ∈
        s.columnTexts n typed (s.wantedJsonColumn storeMetadata) := by simp [columnTexts]
    rw [s.lookupName_createdColumns other n htyped storeMetadata hcolumn, reportedType_text]
  have hembedding : lookupName columns s.embeddingColumn = some (.text "USER-DEFINED") := by
    have hcolumn : (s.embeddingColumn, "vector(" ++ toString n ++ ") NOT NULL") ∈
        s.columnTexts n typed (s.wantedJsonColumn storeMetadata) := by simp [columnTexts]
    rw [s.lookupName_createdColumns other n htyped storeMetadata hcolumn, reportedType_vector]
  have hmetadata : ∀ column ∈ typed, (lookupName columns column.name).isSome := by
    intro column hcolumn
    rw [isSome_lookupName_iff, hnames, Draft.metadataNames, htyped]
    simp only [List.map_map, List.mem_append, List.mem_map]
    exact .inl (.inr ⟨column, hcolumn, rfl⟩)
  have hresolve := s.exists_resolve htyped hjson hid hcontent hembedding hmetadata
  rwa [s.presentJsonColumn_eq hnames] at hresolve

end Created

theorem createdTable?_createTable {size : Value} {storeMetadata : Bool} {pieces : List Piece}
    (hcreate : s.createTable size storeMetadata = .ok pieces)
    (htypes : ∀ column, .typed column ∈ s.metadataColumns →
      isComplete column.dataType.toList = true) (other : String → String) :
    ∃ n typed, s.metadataColumns = typed.map .typed ∧
      createdTable? other (render pieces) = some ⟨s.schema, s.table,
        s.createdColumns other n typed (s.wantedJsonColumn storeMetadata)⟩ := by
  obtain ⟨n, typed, -, htyped, rfl⟩ := s.createTable_eq_ok_iff.mp hcreate
  refine ⟨n, typed, htyped, ?_⟩
  apply createdTable?_render other s.schema s.table
  · simp [columnTexts]
  · intro column hcolumn
    apply s.isComplete_of_mem_columnTexts ?_ hcolumn
    intro declared hdeclared
    apply htypes
    rw [htyped]
    exact List.mem_map_of_mem hdeclared
  · have hnodup := s.nodup_createdColumns other n htyped storeMetadata
    rwa [createdColumns, List.map_map] at hnodup

/-- Whatever the types of its metadata columns do to the statement, a table that it creates has the columns for identifier, content and vector, with fitting types. -/
theorem lookupName_of_createdTable? {size : Value} {storeMetadata : Bool} {pieces : List Piece}
    (hcreate : s.createTable size storeMetadata = .ok pieces) {other : String → String}
    {table : Table} (htable : createdTable? other (render pieces) = some table) :
    (table.columns.map Prod.fst).Nodup ∧ (lookupName table.columns s.idColumn).isSome ∧
      lookupName table.columns s.contentColumn = some (.text "text") ∧
      lookupName table.columns s.embeddingColumn = some (.text "USER-DEFINED") := by
  obtain ⟨n, typed, -, -, rfl⟩ := s.createTable_eq_ok_iff.mp hcreate
  have hcomplete : ∀ column ∈ s.columnTexts n [] none, isComplete column.2.toList = true :=
    fun column hcolumn => s.isComplete_of_mem_columnTexts (List.forall_mem_nil _) hcolumn
  have hsplit : (s.columnTexts n typed (s.wantedJsonColumn storeMetadata)).map Sql.definition =
      (s.columnTexts n [] none).map Sql.definition ++
        ((typed.map (fun column =>
          (column.name, column.dataType ++ if column.nullable then "" else " NOT NULL"))
          ++ (s.wantedJsonColumn storeMetadata).toList.map fun name => (name, "JSON")).map
            Sql.definition) := by
    simp [columnTexts]
  rw [createPieces, hsplit] at htable
  obtain ⟨-, -, hnodup, more, hcolumns⟩ := exists_columns_of_createdTable? hcomplete htable
  refine ⟨hnodup, ?_, ?_, ?_⟩
  · rw [isSome_lookupName_iff, hcolumns]
    simp
  · rw [lookupName_eq_some_iff hnodup, hcolumns, ← reportedType_text other]
    simp
  · rw [lookupName_eq_some_iff hnodup, hcolumns, ← reportedType_vector other n]
    simp

/-- The table that is created has one column for each name, and the schema agrees with it. The declared types are taken to be complete, since one that closes a bracket of the list or opens a comment decides about the rest of the statement. -/
theorem resolve_createdTable {d : Draft} (hs : ofDraft d = .ok s) {size : Value}
    {storeMetadata : Bool} {pieces : List Piece}
    (hcreate : s.createTable size storeMetadata = .ok pieces)
    (htypes : ∀ column, .typed column ∈ s.metadataColumns →
      isComplete column.dataType.toList = true) (other : String → String) :
    ∃ columns resolved, createdTable? other (render pieces) = some ⟨s.schema, s.table, columns⟩ ∧
      columns.map Prod.fst =
        s.reserved ++ s.metadataNames ++ (s.wantedJsonColumn storeMetadata).toList ∧
      (columns.map Prod.fst).Nodup ∧ s.resolve columns none = .ok resolved ∧
      resolved.toDraft = { s.toDraft with jsonColumn := s.wantedJsonColumn storeMetadata } ∧
      resolved.insertColumns.Perm (columns.map Prod.fst) ∧
      resolved.selectColumns.Perm (columns.map Prod.fst) := by
  obtain ⟨n, typed, htyped, hcreated⟩ := s.createdTable?_createTable hcreate htypes other
  obtain ⟨resolved, hresolve, hdraft⟩ := s.exists_resolve_createdColumns other n htyped storeMetadata
    (isBlankText_of_jsonColumn s hs)
  have hnames := s.map_fst_createdColumns other n htyped storeMetadata
  have hall : resolved.reserved ++ resolved.metadataNames ++ resolved.jsonColumn.toList =
      (s.createdColumns other n typed (s.wantedJsonColumn storeMetadata)).map Prod.fst := by
    rw [hdraft, hnames]
    rfl
  refine ⟨_, resolved, hcreated, hnames, s.nodup_createdColumns other n htyped storeMetadata,
    hresolve, hdraft, ?_, ?_⟩
  · rw [← hall]
    exact resolved.perm_insertColumns
  · rw [← hall]
    exact resolved.perm_selectColumns

/-- Names and types with commas and brackets in them; the JSON column is not wanted. -/
theorem resolve_createdTable_commas :
    let d : Draft := { Draft.ofTable "t" with
      contentColumn := "a\", b"
      metadataColumns := [.typed ⟨"n)", "NUMERIC(10, 2)", false, by decide, by decide⟩] }
    ∃ s pieces columns resolved, ofDraft d = .ok s ∧ s.createTable (.int 3) false = .ok pieces ∧
      (∀ column, .typed column ∈ s.metadataColumns → isComplete column.dataType.toList = true) ∧
      createdTable? (fun _ => "numeric") (render pieces) = some ⟨"public", "t", columns⟩ ∧
      columns.map Prod.fst = ["langchain_id", "a\", b", "embedding", "n)"] ∧
      s.resolve columns none = .ok resolved ∧ resolved.jsonColumn = none := by
  intro d
  obtain ⟨⟨_, hsound⟩, hs, rfl⟩ : ∃ s, ofDraft d = .ok s ∧ s.toDraft = d :=
    exists_ofDraft (by decide) (by decide)
  let s : Schema := ⟨d, hsound⟩
  have htypes : ∀ column, .typed column ∈ s.metadataColumns →
      isComplete column.dataType.toList = true := by
    intro column hcolumn
    obtain rfl := MetadataColumn.typed.inj (List.mem_singleton.mp hcolumn)
    decide
  obtain ⟨pieces, hcreate⟩ : ∃ pieces, s.createTable (.int 3) false = .ok pieces := ⟨_, rfl⟩
  obtain ⟨columns, resolved, hcreated, hnames, -, hresolve, hdraft, -⟩ :=
    s.resolve_createdTable hs hcreate htypes fun _ => "numeric"
  refine ⟨s, pieces, columns, resolved, hs, hcreate, htypes, hcreated, hnames, hresolve, ?_⟩
  rw [hdraft]
  rfl

/-- A type without a comma that closes the list and makes a comment of the rest: the JSON column is wanted, but the table has none, and the schema that is found is another. -/
theorem not_resolve_createdTable_comment :
    let page : TypedColumn := ⟨"page", "TEXT) --", true, by decide, by decide⟩
    let s : Schema := ⟨{ Draft.ofTable "documents" with metadataColumns := [.typed page] }, by decide⟩
    ∃ pieces table resolved, s.createTable (.int 3) true = .ok pieces ∧
      createdTable? (fun _ => "text") (render pieces) = some table ∧
      table.columns.map Prod.fst = ["langchain_id", "content", "embedding", "page"] ∧
      s.resolve table.columns none = .ok resolved ∧
      s.jsonColumn = some "langchain_metadata" ∧ resolved.jsonColumn = none := by
  intro page s
  obtain ⟨pieces, hcreate⟩ : ∃ pieces, s.createTable (.int 3) true = .ok pieces := ⟨_, rfl⟩
  have hread : (createdTable? (fun _ => "text") (render pieces)).map
      (fun table => table.columns.map Prod.fst) =
        some ["langchain_id", "content", "embedding", "page"] := by
    obtain rfl := Except.ok.inj hcreate
    decide +kernel
  obtain ⟨table, htable, hnames⟩ := Option.map_eq_some_iff.mp hread
  obtain ⟨-, hid, hcontent, hembedding⟩ := s.lookupName_of_createdTable? hcreate htable
  have hpage : ∀ column ∈ [page], (lookupName table.columns column.name).isSome := by
    intro column hcolumn
    rw [List.mem_singleton.mp hcolumn, isSome_lookupName_iff, hnames]
    decide
  have hmissing : lookupName table.columns "langchain_metadata" = none := by
    rw [← Option.not_isSome_iff_eq_none, isSome_lookupName_iff, hnames]
    decide
  have hmetadata : s.metadataColumns = [page].map .typed := rfl
  obtain ⟨resolved, hresolve, hdraft⟩ :=
    s.exists_resolve hmetadata (by decide) hid hcontent hembedding hpage
  have hjson : s.jsonColumn = some "langchain_metadata" := rfl
  refine ⟨pieces, table, resolved, hcreate, htable, hnames, hresolve, hjson, ?_⟩
  rw [hdraft]
  show s.presentJsonColumn table.columns = none
  simp [Schema.presentJsonColumn, hjson, hmissing]

end Schema

end VectorTable
