import VectorTable.Proofs.Schema.Resolved
import VectorTable.Proofs.Statement.Columns
import VectorTable.Proofs.Store.Completion

/-!
# Stores that have been opened

Opening a store asks the database for the columns of its table and resolves the schema against them. So whatever a caller declared, the schema of an open store fits its table, and the statements built from it name columns that the table has. The keys of a filter are an exception: they are not compared with the columns, so a key that the table lacks goes into the statement, and it is the database that complains.
-/

namespace VectorTable

open Program Sql

/-! ### The answer of the catalogue -/

/-- What the database answers when it is asked for the columns of a table. -/
def catalogue (columns : TableColumns) : Value :=
  .list (columns.map fun column =>
    .record [("column_name", .text column.1), ("data_type", column.2)])

namespace Store

theorem tableColumns_catalogue {columns : TableColumns}
    (hnodup : (columns.map Prod.fst).Nodup) :
    tableColumns (columns.map fun column =>
      .record [("column_name", .text column.1), ("data_type", column.2)]) = .ok columns := by
  have hrow : ∀ column : String × Value, catalogueColumn
      (.record [("column_name", .text column.1), ("data_type", column.2)]) = .ok column := by
    intro column
    let entries := [("column_name", Value.text column.1), ("data_type", column.2)]
    have hname : lookupName entries "column_name" = some (.text column.1) := rfl
    have htype : lookupName entries "data_type" = some column.2 := rfl
    rw [catalogueColumn, Value.requiredColumn_record hname, Value.requiredColumn_record htype]
    rfl
  have hrows : (columns.map fun column =>
      Value.record [("column_name", .text column.1), ("data_type", column.2)]).mapM catalogueColumn =
        .ok columns := by
    rw [List.mapM_map]
    simp only [Function.comp_def, hrow]
    exact List.mapM_pure.trans (by rw [List.map_id']; rfl)
  rw [tableColumns, hrows]
  exact congrArg Except.ok (namedEntries_of_nodup hnodup)

theorem resolveRows_catalogue {schema : Schema} {columns : TableColumns}
    (hnodup : (columns.map Prod.fst).Nodup) (hsome : columns ≠ []) (ignored : Option (List String)) :
    resolveRows schema ignored (catalogue columns) = schema.resolve columns ignored := by
  have htruthy : (catalogue columns).truthy = true := by
    cases columns with
    | nil => exact absurd rfl hsome
    | cons column columns => rfl
  rw [resolveRows, if_pos htruthy]
  show (do schema.resolve (← tableColumns _) ignored) = _
  rw [tableColumns_catalogue hnodup]
  rfl

/-! ### The columns of an open store -/

theorem mem_of_path_introspect {schema : Schema} {m : Memory} {h : History} {answer : Value}
    (hpath : Path (introspect schema) m h (.ok answer)) :
    .contact (.statement (introspection schema)) (.ok answer) ∈ h := by
  obtain ⟨result, hinner, hsame⟩ := path_accountFor hpath
  obtain rfl := (hsame answer).mpr rfl
  obtain ⟨hw, hwork, hsub⟩ := exists_path_of_withConnection_ok hinner
  rw [eq_of_path_contact_ok hwork] at hsub
  exact hsub List.mem_cons_self

/-- Resolving a schema against a table is sound, and doing it again changes nothing. So is opening a store, whatever the server answers: the statements that are built for it name columns of the table, apart from the keys of filters. -/
theorem resolvesTo_run {d : Draft} {s : Schema} (hs : Schema.ofDraft d = .ok s) :
    (∀ columns ignored r, s.resolve columns ignored = .ok r →
      ∃ typed, s.ResolvesTo columns (ignored.getD []) r typed) ∧
    ∀ {σ : Type} (server : Server σ) (state : σ) (m : Memory) (ignored : Option (List String))
      (distance : Distance) (tuning : Option Tuning) (settings : Except Failure Setting.Store)
      (store : Store),
      let run := (create s ignored distance tuning settings).run server state m
      run.result = .ok store →
      ∃ answer rows columns typed,
        .contact (.statement (introspection s)) (.ok answer) ∈ run.history ∧
        answer.items = .ok rows ∧ tableColumns rows = .ok columns ∧
        s.ResolvesTo columns (ignored.getD []) store.schema typed ∧
        store.schema.NamesColumns (columns.map Prod.fst) := by
  have hjson := Schema.isBlankText_of_jsonColumn s hs
  refine ⟨fun columns ignored r h => Schema.exists_resolvesTo hjson h, ?_⟩
  intro σ server state m ignored distance tuning settings store run hstore
  have hpath : Path (create s ignored distance tuning settings) m run.history (.ok store) :=
    hstore ▸ path_run server _ state m
  obtain ⟨h₁, h₂, answer, hhistory, hasked, -, hresolved, -⟩ := exists_path_introspect hpath
  obtain ⟨-, rows, columns, hrows, hcolumns, hresolve⟩ := resolveRows_eq_ok_iff.mp hresolved
  obtain ⟨typed, htyped⟩ := Schema.exists_resolvesTo hjson hresolve
  refine ⟨answer, rows, columns, typed, ?_, hrows, hcolumns, htyped,
    store.schema.namesColumns_of_subset htyped.present⟩
  rw [hhistory]
  exact List.mem_append_left _ (mem_of_path_introspect hasked)

/-- One column of the table is ignored, and there is no JSON column in it. -/
theorem resolvesTo_run_pages :
    let d := Draft.ofTable "t"
    let s : Schema := ⟨d, by decide⟩
    let columns : TableColumns := [("page", .text "integer"), ("langchain_id", .text "uuid"),
      ("content", .text "TEXT"), ("embedding", .text "user-defined"), ("source", .text "text")]
    let server : Server Unit := fun _ contact => match contact with
      | .statement _ => (.ok (catalogue columns), ())
      | _ => (.ok .null, ())
    let run := (create s (some ["source"]) .cosine none (.ok ⟨⟨4, by decide⟩, none, ⟨2, by decide⟩⟩)).run
      server () ⟨true, 0, true⟩
    ∃ store typed, Schema.ofDraft d = .ok s ∧ run.result = .ok store ∧
      store.schema.metadataNames = ["page"] ∧ store.schema.jsonColumn = none ∧
      s.ResolvesTo columns ["source"] store.schema typed ∧
      store.schema.NamesColumns (columns.map Prod.fst) := by
  intro d s columns server run
  have hs : Schema.ofDraft d = .ok s := Schema.ofDraft_eq_ok_iff.mpr rfl
  have hopened : run.result.toOption.map (fun store =>
      (store.schema.metadataNames, store.schema.jsonColumn)) = some (["page"], none) := by
    decide +kernel
  cases hstore : run.result with
  | error failure =>
    rw [hstore] at hopened
    cases hopened
  | ok store =>
    rw [hstore] at hopened
    obtain ⟨hmetadata, hjson⟩ := Prod.mk.inj (Option.some.inj hopened)
    obtain ⟨-, hrun⟩ := resolvesTo_run hs
    obtain ⟨answer, rows, found, typed, hanswer, hrows, hcolumns, hresolves, hnames⟩ :=
      hrun server () ⟨true, 0, true⟩ (some ["source"]) .cosine none _ store hstore
    obtain ⟨_, hreply⟩ := exists_state_of_mem_run hanswer
    cases hreply
    cases hrows
    have hsame : columns = found :=
      Except.ok.inj ((tableColumns_catalogue (by decide)).symm.trans hcolumns)
    rw [← hsame] at hresolves hnames
    exact ⟨store, typed, hs, rfl, hmetadata, hjson, hresolves, hnames⟩

/-- The key of a filter is a column of the statement, although it is none of the table. -/
theorem not_namesOnly_search_lang :
    let s : Schema := ⟨Draft.ofTable "t", by decide⟩
    let columns : TableColumns := [("page", .text "integer"), ("langchain_id", .text "uuid"),
      ("content", .text "text"), ("embedding", .text "USER-DEFINED")]
    let server : Server Unit := fun _ contact => match contact with
      | .statement _ => (.ok (catalogue columns), ())
      | _ => (.ok .null, ())
    let run := (create s none .cosine none (.ok ⟨⟨4, by decide⟩, none, ⟨2, by decide⟩⟩)).run
      server () ⟨true, 0, true⟩
    let lang : Filter := .leaf (.member .among ⟨"lang", by decide⟩ ⟨.text "de", rfl⟩ [])
    let request : SearchRequest := ⟨.list [.float 1], .int 3, .null, some lang, rfl, rfl⟩
    ∃ store query tokens, run.result = .ok store ∧
      store.schema.search store.distance request = .ok query ∧ lex? query.sql = some tokens ∧
      "lang" ∈ columnNames tokens ∧ "lang" ∉ columns.map Prod.fst := by
  intro s columns server run lang request
  let opened : Schema := ⟨{ Draft.ofTable "t" with jsonColumn := none }, by decide⟩
  have hopened : run.result.toOption.map (fun store => (store.schema.toDraft, store.distance)) =
      some (opened.toDraft, .cosine) := by
    decide +kernel
  cases hstore : run.result with
  | error failure =>
    rw [hstore] at hopened
    cases hopened
  | ok store =>
    rw [hstore] at hopened
    obtain ⟨⟨draft, hsound⟩, distance, tuning, settings⟩ := store
    cases Option.some.inj hopened
    have hvector : formatVector request.embedding = .ok (writeVector [1]) := formatVector_list [1]
    have hfilter : ∀ f ∈ request.filter, f.isSupported = true := by
      rintro _ ⟨⟩
      rfl
    obtain ⟨query, tokens, hquery, hlex, hargs, htokens, -⟩ :=
      opened.lex?_search .cosine hvector hfilter
    refine ⟨_, query, tokens, rfl, hquery, hlex, ?_, by decide⟩
    have hlength : query.args.length = 3 := by rw [hargs]; rfl
    rw [htokens, hlength]
    decide

end Store

end VectorTable
