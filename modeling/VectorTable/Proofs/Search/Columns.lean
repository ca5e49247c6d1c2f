import VectorTable.Proofs.Schema.Created
import VectorTable.Proofs.Search.Ranking
import VectorTable.Proofs.Sql.SelectList
import VectorTable.Proofs.Statement.Slots

/-!
# What a match reports of a row

A row is read by the names of its columns, so each look-up finds the column that is meant only if no two columns have the same name. The columns of the table have distinct names. A search selects one more besides them, which it calls `distance` without asking whether a column of the table has that name, and the rows of other selections are read for a column of that name as well. Here the names are taken from the text of a statement as the database reads it; then what is read of a row follows from the names being distinct.
-/

namespace VectorTable

open Program Sql

namespace Schema

variable (s : Schema)

/-! ### What is selected -/

/-- What a search selects besides the columns of the table. -/
def distanceItem (distance : Distance) : List Token :=
  [.word distance.searchFunction, .mark '(', .name s.embeddingColumn, .mark ',', .slot 1, .cast,
    .word "vector", .mark ')', .word "as", .word "distance"]

theorem selectColumns_ne_nil : s.selectColumns ≠ [] :=
  List.ne_nil_of_mem (a := s.idColumn) (by simp [selectColumns])

variable {s}

theorem selectItems?_search {distance : Distance} {request : SearchRequest} {query : Query}
    (h : s.search distance request = .ok query) :
    selectItems? query.sql = some (s.selectColumns.map (fun name => [.name name]) ++
      [s.distanceItem distance]) := by
  have hsql : (Origin.search s distance request).sql? = .ok query.sql := by
    rw [Origin.sql?, h]
    rfl
  obtain ⟨hrender, hfilter⟩ := Origin.sql_eq_render hsql
  let rest := .name s.schema :: .mark '.' :: .name s.table ::
    (conditionTokens request.filter ++ s.orderTokens distance ++
      [.word "limit", .slot ((request.filter.elim [] Filter.values).length + 2)])
  have hlex : lex? query.sql = some (.word "select" :: (nameTokens s.selectColumns ++
      .mark ',' :: (s.distanceItem distance ++ .word "from" :: rest))) := by
    have hsupported : ∀ f ∈ request.filter, f.isSupported = true := hfilter
    have htokens := s.tokens_searchPieces distance hsupported
    rw [hrender, lex?_render (Origin.legible_pieces hfilter), Origin.pieces, htokens]
    simp [selectionTokens, distanceItem, rest]
  have hrest : ∀ item, cutItems? 0 item (.mark ',' :: (s.distanceItem distance ++
      .word "from" :: rest)) = (some [s.distanceItem distance]).map (item :: ·) := by
    cases distance <;> exact fun item => rfl
  exact selectItems?_names hlex s.selectColumns_ne_nil hrest

theorem selectItems?_getByIds {ids : Value} {query : Query} (h : s.getByIds ids = .ok query) :
    selectItems? query.sql = some (s.selectColumns.map fun name => [.name name]) := by
  have hsql : (Origin.getByIds s ids).sql? = .ok query.sql := by
    rw [Origin.sql?, h]
    rfl
  obtain ⟨hrender, hfilter⟩ := Origin.sql_eq_render hsql
  let rest := (s.tablePieces ++ s.identifierClause).flatMap Piece.tokens
  have hselect : (Piece.raw "SELECT ").tokens = [.word "select"] := by decide
  have hfrom : (Piece.raw " FROM ").tokens = [.word "from"] := by decide
  have hlex : lex? query.sql = some (.word "select" :: (nameTokens s.selectColumns ++
      .word "from" :: rest)) := by
    rw [hrender, lex?_render (Origin.legible_pieces hfilter)]
    simp [Origin.pieces, tokens_nameList, hselect, hfrom, rest]
  have hrest : ∀ item, cutItems? 0 item (.word "from" :: rest) =
      (some []).map (item :: ·) := fun item => rfl
  rw [selectItems?_names hlex s.selectColumns_ne_nil hrest, Option.map_some, List.append_nil]

theorem outputNames?_search {distance : Distance} {request : SearchRequest} {query : Query}
    (h : s.search distance request = .ok query) :
    outputNames? query.sql = some (s.selectColumns ++ ["distance"]) := by
  have hdistance : [s.distanceItem distance].mapM columnName? = some ["distance"] := rfl
  rw [outputNames?, selectItems?_search h, Option.bind_eq_bind, Option.bind_some, List.mapM_append,
    mapM_columnName?_names, hdistance]
  rfl

theorem outputNames?_getByIds {ids : Value} {query : Query} (h : s.getByIds ids = .ok query) :
    outputNames? query.sql = some s.selectColumns := by
  rw [outputNames?, selectItems?_getByIds h]
  exact mapM_columnName?_names s.selectColumns

/-- Only a column that is itself called `distance` has the name of another. -/
theorem nodup_searchNames_iff :
    (s.selectColumns ++ ["distance"]).Nodup ↔ "distance" ∉ s.selectColumns := by
  rw [← List.concat_eq_append, List.nodup_concat]
  exact and_iff_left nodup_selectColumns

end Schema

/-! ### What is read of a row -/

namespace Value

/-- The distance that a value is read as. -/
def readDistance : Value → Except Failure (Option Float)
  | null => .ok none
  | value => some <$> value.toFloat

/-- The content of a JSON column, which may come as text or as a value that has been read. -/
def readContent : Value → Except Failure Value
  | text json => (Json.read json).mapError fun fault => .misfit (.badJson fault)
  | content => .ok content

/-- The entries that are read from the value of a JSON column. -/
def readEntries (value : Value) : Except Failure (List (Value × Value)) := do
  let content ← value.readContent
  if content.truthy then updateEntries [] content else pure []

end Value

namespace Schema

/-- What is in a column of a row of named values. -/
def cell (cells : List (String × Value)) (name : String) : Value := (lookupName cells name).getD .null

theorem cell_eq_of_mem {cells : List (String × Value)} (hnodup : (cells.map Prod.fst).Nodup)
    {name : String} {value : Value} (h : (name, value) ∈ cells) : cell cells name = value := by
  rw [cell, (lookupName_eq_some_iff hnodup).mpr h, Option.getD_some]

theorem cell_eq_null {cells : List (String × Value)} {name : String}
    (h : name ∉ cells.map Prod.fst) : cell cells name = .null := by
  rw [cell, lookupName_eq_none h, Option.getD_none]

theorem field?_of_putColumns {cells : List (String × Value)} {names : List String}
    {entries done : List (Value × Value)}
    (h : putColumns (.record cells) entries names = .ok done) (key : String) :
    Value.field? done key =
      if key ∈ names ∧ (cell cells key).isNull = false then some (cell cells key)
      else Value.field? entries key := by
  induction names generalizing entries with
  | nil =>
    cases h
    simp
  | cons name names ih =>
    rw [putColumns, Value.column_record] at h
    have hrest := ih h
    rw [hrest]
    by_cases hlater : key ∈ names ∧ (cell cells key).isNull = false
    · rw [if_pos hlater, if_pos ⟨List.mem_cons_of_mem _ hlater.1, hlater.2⟩]
    · rw [if_neg hlater]
      change Value.field? (if (cell cells name).isNull then entries
        else putEntry Value.same entries (.text name) (cell cells name)) key = _
      by_cases hkey : key = name
      · subst hkey
        cases hnull : (cell cells key).isNull with
        | true => simp
        | false => simp [Value.field?_putEntry]
      · have hsame : (key ∈ name :: names ∧ (cell cells key).isNull = false) ↔
            (key ∈ names ∧ (cell cells key).isNull = false) := by
          simp [hkey]
        rw [if_neg (hsame.not.mpr hlater)]
        split
        · rfl
        · rw [Value.field?_putEntry, if_neg hkey]

/-- Entries that the JSON column of a row holds. There are none without such a column. -/
def StoresEntries (s : Schema) (cells : List (String × Value)) (entries : List (Value × Value)) :
    Prop :=
  match s.jsonColumn with
  | none => entries = []
  | some name => ∃ value, (name, value) ∈ cells ∧ value.readEntries = .ok entries

/-- A match that reports what is in the columns of a row, each under its own role or key. A metadata column with nothing in it leaves its key to the JSON column. -/
structure Reports (s : Schema) (cells : List (String × Value)) (m : Match) : Prop where
  id : ∃ value, (s.idColumn, value) ∈ cells ∧ m.id = value.plain
  embedding : ∃ value, (s.embeddingColumn, value) ∈ cells ∧ parseVector value = .ok m.embedding
  text : (s.contentColumn, m.text) ∈ cells
  columns : ∀ name ∈ s.metadataNames, ∀ value, (name, value) ∈ cells → value.isNull = false →
    Value.field? m.metadata name = some value
  entries : ∃ entries, s.StoresEntries cells entries ∧
    ∀ key, (key ∈ s.metadataNames → (key, .null) ∈ cells) →
      Value.field? m.metadata key = Value.field? entries key

theorem exists_of_rowMetadata {s : Schema} {cells : List (String × Value)}
    {metadata : List (Value × Value)} (h : s.rowMetadata (.record cells) = .ok metadata)
    (hjson : ∀ name ∈ s.jsonColumn, (name, cell cells name) ∈ cells) :
    ∃ entries, s.StoresEntries cells entries ∧
      putColumns (.record cells) entries s.metadataNames = .ok metadata := by
  obtain ⟨content, hcontent, h⟩ := bind_eq_ok_iff.mp h
  obtain ⟨entries, hentries, hput⟩ : ∃ entries,
      (if content.truthy then Value.updateEntries [] content else pure []) = .ok entries ∧
        putColumns (.record cells) entries s.metadataNames = .ok metadata := by
    split at h
    case isTrue htruthy =>
      obtain ⟨entries, hentries, hput⟩ := bind_eq_ok_iff.mp h
      exact ⟨entries, (if_pos htruthy).trans hentries, hput⟩
    case isFalse htruthy => exact ⟨[], if_neg htruthy, h⟩
  refine ⟨entries, ?_, hput⟩
  rw [jsonContent] at hcontent
  rw [StoresEntries]
  cases hcolumn : s.jsonColumn with
  | none =>
    rw [hcolumn] at hcontent
    cases hcontent
    cases hentries
    rfl
  | some name =>
    simp only [hcolumn, Value.column_record] at hcontent
    have hread : (cell cells name).readContent = .ok content := hcontent
    exact ⟨_, hjson name hcolumn, bind_eq_ok_iff.mpr ⟨content, hread, hentries⟩⟩

/-- Among distinct columns every look-up by name finds the column that is meant. -/
theorem reports_of_rowToMatch {s : Schema} {measure : Distance} {given : Option Float}
    {cells : List (String × Value)} {m : Match} (hnodup : (cells.map Prod.fst).Nodup)
    (hcolumns : ∀ name ∈ s.selectColumns, name ∈ cells.map Prod.fst)
    (h : s.rowToMatch measure given (.record cells) = .ok m) :
    s.Reports cells m ∧ (cell cells "distance").readDistance = .ok m.distance := by
  have hcell : ∀ name ∈ s.selectColumns, lookupName cells name = some (cell cells name) := by
    intro name hname
    obtain ⟨value, hvalue⟩ := Option.isSome_iff_exists.mp
      (isSome_lookupName_iff.mpr (hcolumns name hname))
    rw [cell, hvalue, Option.getD_some]
  have hmem : ∀ name ∈ s.selectColumns, (name, cell cells name) ∈ cells := fun name hname =>
    (lookupName_eq_some_iff hnodup).mp (hcell name hname)
  have hid : s.idColumn ∈ s.selectColumns := by simp [selectColumns]
  have hcontent : s.contentColumn ∈ s.selectColumns := by simp [selectColumns]
  have hembedding : s.embeddingColumn ∈ s.selectColumns := by simp [selectColumns]
  have hjson : ∀ name ∈ s.jsonColumn, name ∈ s.selectColumns := by
    intro name hname
    simp [selectColumns, Option.mem_def.mp hname]
  obtain ⟨hread, hdistance, -, ⟨id, hidentifier, hplain⟩, ⟨vector, hvector, hparsed⟩, htext⟩ :=
    readsAs_of_rowToMatch h
  rw [Value.requiredColumn_record (hcell _ hid)] at hidentifier
  rw [Value.column_record] at hvector htext
  cases hidentifier
  cases hvector
  obtain ⟨entries, hentries, hput⟩ := exists_of_rowMetadata hread fun name hname =>
    hmem name (hjson name hname)
  have hfield := field?_of_putColumns hput
  refine ⟨⟨⟨_, hmem _ hid, hplain⟩, ⟨_, hmem _ hembedding, hparsed⟩,
    Except.ok.inj htext ▸ hmem _ hcontent, ?_, entries, hentries, ?_⟩, ?_⟩
  · intro name hname value hvalue hpresent
    rw [hfield, cell_eq_of_mem hnodup hvalue, if_pos ⟨hname, hpresent⟩]
  · intro key hkey
    refine (hfield key).trans (if_neg ?_)
    rintro ⟨hname, hpresent⟩
    rw [cell_eq_of_mem hnodup (hkey hname)] at hpresent
    cases hpresent
  · rw [rowDistance, Value.column_record] at hdistance
    exact hdistance

end Schema

/-! ### Rows of a selection -/

/-- Rows of values as the server gives them, each value with the name of its column. -/
def Value.table (names : List String) (rows : List (List Value)) : Value :=
  .list (rows.map fun values => .record (names.zip values))

/-- Matches that report rows of values, each match its own row. -/
structure Schema.ReportsAll (s : Schema) (names : List String) (rows : List (List Value))
    (found : List Match) : Prop where
  length : found.length = rows.length
  reports : ∀ values m, (values, m) ∈ rows.zip found → s.Reports (names.zip values) m

theorem Schema.reportsAll_of_mapM {s : Schema} {measure : Distance} {given : Option Float}
    {names : List String} {rows : List (List Value)} {found : List Match} (hnodup : names.Nodup)
    (hcolumns : ∀ name ∈ s.selectColumns, name ∈ names)
    (hlengths : ∀ values ∈ rows, values.length = names.length)
    (h : (rows.map fun values => .record (names.zip values)).mapM (s.rowToMatch measure given) =
      .ok found) :
    s.ReportsAll names rows found ∧ ∀ values m, (values, m) ∈ rows.zip found →
      (cell (names.zip values) "distance").readDistance = .ok m.distance := by
  have heach : ∀ values m, (values, m) ∈ rows.zip found → s.Reports (names.zip values) m ∧
      (cell (names.zip values) "distance").readDistance = .ok m.distance := by
    intro values m hmem
    have hlength := hlengths values (List.of_mem_zip hmem).1
    have hnames : (names.zip values).map Prod.fst = names :=
      List.map_fst_zip (Nat.le_of_eq hlength.symm)
    rw [List.mapM_map] at h
    refine reports_of_rowToMatch ?_ ?_ (eq_ok_of_mem_zip_mapM h hmem)
    · rwa [hnames]
    · rwa [hnames]
  refine ⟨⟨?_, fun values m hmem => (heach values m hmem).1⟩,
    fun values m hmem => (heach values m hmem).2⟩
  rw [length_of_mapM h, List.length_map]

/-- The last of the selected columns is found by its name if no other column has that name. -/
theorem cell_last {names : List String} {last : String} (hnodup : (names ++ [last]).Nodup)
    {values : List Value} (hlength : values.length = (names ++ [last]).length) :
    values.getLast? = some (Schema.cell ((names ++ [last]).zip values) last) := by
  obtain ⟨front, value, rfl⟩ : ∃ front value, values = front ++ [value] := by
    refine (List.eq_nil_or_concat' values).resolve_left ?_
    rintro rfl
    simp at hlength
  have hfront : names.length = front.length := by simpa using hlength.symm
  have hcells : ((names ++ [last]).zip (front ++ [value])).map Prod.fst = names ++ [last] :=
    List.map_fst_zip (Nat.le_of_eq hlength.symm)
  have hmem : (last, value) ∈ (names ++ [last]).zip (front ++ [value]) := by
    rw [List.zip_append hfront]
    exact List.mem_append_right _ List.mem_cons_self
  rw [Schema.cell_eq_of_mem (by rwa [hcells]) hmem, List.getLast?_concat]

namespace Store

theorem path_getByIds_ok {s : Store} {ids : Value} (hids : ids.truthy = true) {m : Memory}
    {h : History} {found : List Match} (hpath : Path (s.getByIds ids) m h (.ok found)) :
    ∃ query answer rows, s.schema.getByIds ids = .ok query ∧
      .contact (.statement ⟨.fetch, query.sql, [query.args], s.timeout⟩) (.ok answer) ∈ h ∧
      answer.items = .ok rows ∧
      rows.mapM (s.schema.rowToMatch s.distance (some 1)) = .ok found := by
  rw [getByIds, hids, if_neg (by decide)] at hpath
  obtain ⟨query, hquery, hpath⟩ := path_ofExcept_bind_ok_iff.mp hpath
  obtain ⟨count, -, hpath⟩ := path_ofExcept_bind_ok_iff.mp hpath
  obtain ⟨_, _, answer, rfl, hoperation, hend⟩ := path_bind_ok_iff.mp hpath
  obtain ⟨_, hwork, houter⟩ := exists_path_of_operation_ok hoperation
  obtain ⟨_, hfetch, hinner⟩ := exists_path_of_withConnection_ok hwork
  obtain rfl := eq_of_path_contact_ok hfetch
  have hfetched := houter (hinner List.mem_cons_self)
  obtain ⟨rows, hrows, hend⟩ := path_ofExcept_bind_ok_iff.mp hend
  exact ⟨query, answer, rows, hquery, List.mem_append_left _ hfetched, hrows,
    (path_done_iff.mp hend).2.symm⟩

/-- A search selects the columns of the table and, as its last column, what the function of the measure computes. The names of these are distinct exactly if no column of the table is called `distance`, and then the matches report the rows that the server gives, with the last value of each as the distance. Matches fetched by identifiers always report their rows, but they are without a distance only if no column has that name; otherwise the distance is what is stored there. -/
theorem reports_run {σ : Type} (s : Store) (server : Server σ) (state : σ) (m : Memory) :
    (∀ request query, s.schema.search s.distance request = .ok query →
      selectItems? query.sql = some (s.schema.selectColumns.map (fun name => [.name name]) ++
        [s.schema.distanceItem s.distance]) ∧
      outputNames? query.sql = some (s.schema.selectColumns ++ ["distance"])) ∧
    ((s.schema.selectColumns ++ ["distance"]).Nodup ↔ "distance" ∉ s.schema.selectColumns) ∧
    (∀ request kept, ((s.search request).run server state m).result = .ok kept →
      "distance" ∉ s.schema.selectColumns →
      ∃ query answer found, s.schema.search s.distance request = .ok query ∧
        .contact (.statement ⟨.fetch, query.sql, [query.args], s.timeout⟩) (.ok answer) ∈
          ((s.search request).run server state m).history ∧
        kept = found.filter (fun hit => request.isReachedBy hit.score) ∧
        ∀ names rows, outputNames? query.sql = some names → answer = .table names rows →
          (∀ values ∈ rows, values.length = names.length) →
          s.schema.ReportsAll names rows found ∧
          ∀ values hit, (values, hit) ∈ rows.zip found →
            ∃ value, values.getLast? = some value ∧ value.readDistance = .ok hit.distance) ∧
    ∀ ids found, ((s.getByIds ids).run server state m).result = .ok found →
      (ids.truthy = false → found = []) ∧
      (ids.truthy = true →
        ∃ query answer, s.schema.getByIds ids = .ok query ∧
          .contact (.statement ⟨.fetch, query.sql, [query.args], s.timeout⟩) (.ok answer) ∈
            ((s.getByIds ids).run server state m).history ∧
          ∀ names rows, outputNames? query.sql = some names → answer = .table names rows →
            (∀ values ∈ rows, values.length = names.length) →
            s.schema.ReportsAll names rows found ∧
            ∀ values hit, (values, hit) ∈ rows.zip found →
              ("distance" ∉ s.schema.selectColumns → hit.distance = none) ∧
              ∀ value, ("distance", value) ∈ names.zip values →
                value.readDistance = .ok hit.distance) := by
  refine ⟨fun request query hquery => ⟨Schema.selectItems?_search hquery,
    Schema.outputNames?_search hquery⟩, Schema.nodup_searchNames_iff, ?_, ?_⟩
  · intro request kept hkept hdistance
    have hpath : Path (s.search request) m _ (.ok kept) :=
      hkept ▸ path_run server (s.search request) state m
    obtain ⟨query, answer, items, found, hquery, hfetched, hitems, hfound, hscored⟩ :=
      path_search_ok hpath
    refine ⟨query, answer, found, hquery, hfetched, eq_filter_of_keepScored hscored, ?_⟩
    rintro names rows hnames rfl hlengths
    obtain rfl := Option.some.inj ((Schema.outputNames?_search hquery).symm.trans hnames)
    cases hitems
    have hnodup := Schema.nodup_searchNames_iff.mpr hdistance
    obtain ⟨hall, hread⟩ := Schema.reportsAll_of_mapM hnodup
      (fun name hname => List.mem_append_left _ hname) hlengths hfound
    refine ⟨hall, fun values hit hmem => ⟨_, ?_, hread values hit hmem⟩⟩
    exact cell_last hnodup (hlengths values (List.of_mem_zip hmem).1)
  · intro ids found hfound
    have hpath : Path (s.getByIds ids) m _ (.ok found) :=
      hfound ▸ path_run server (s.getByIds ids) state m
    refine ⟨fun hids => ?_, fun hids => ?_⟩
    · rw [getByIds, hids, if_pos (by decide)] at hpath
      exact Except.ok.inj (path_done_iff.mp hpath).2
    obtain ⟨query, answer, items, hquery, hfetched, hitems, hmatches⟩ :=
      path_getByIds_ok hids hpath
    refine ⟨query, answer, hquery, hfetched, ?_⟩
    rintro names rows hnames rfl hlengths
    obtain rfl := Option.some.inj ((Schema.outputNames?_getByIds hquery).symm.trans hnames)
    cases hitems
    obtain ⟨hall, hread⟩ := Schema.reportsAll_of_mapM Schema.nodup_selectColumns
      (fun _ hname => hname) hlengths hmatches
    refine ⟨hall, fun values hit hmem => ?_⟩
    have hcells : (s.schema.selectColumns.zip values).map Prod.fst = s.schema.selectColumns :=
      List.map_fst_zip (Nat.le_of_eq (hlengths values (List.of_mem_zip hmem).1).symm)
    have hnodup : ((s.schema.selectColumns.zip values).map Prod.fst).Nodup := by
      rw [hcells]
      exact Schema.nodup_selectColumns
    have hthis := hread values hit hmem
    refine ⟨fun hdistance => ?_, fun value hvalue => ?_⟩
    · rw [Schema.cell_eq_null (by rwa [hcells])] at hthis
      exact (Except.ok.inj hthis).symm
    · rwa [Schema.cell_eq_of_mem hnodup hvalue] at hthis

/-- A column whose name only contains the word is no obstacle. -/
theorem reports_run_comma :
    let s : Store := ⟨⟨{ Draft.ofTable "t" with
      metadataColumns := [.named "a, distance"], jsonColumn := none }, by decide⟩,
      .cosine, none, ⟨⟨4, by decide⟩, none, ⟨2, by decide⟩⟩⟩
    let request : SearchRequest := ⟨.list [.int 0], .int 3, .null, none, rfl, rfl⟩
    let ids : Value := .list [.text "x"]
    let names := ["a, distance", "langchain_id", "content", "embedding"]
    let values : List Value := [.int 7, .text "x", .text "hello", .null]
    let server (answer : Value) : Server Unit := fun _ contact => match contact with
      | .statement _ => (.ok answer, ())
      | _ => (.ok .null, ())
    let searched := server (.table (names ++ ["distance"]) [values ++ [.int 2]])
    let fetched := server (.table names [values])
    "distance" ∉ s.schema.selectColumns ∧ ids.truthy = true ∧
    (∃ hit, ((s.search request).run searched () ⟨true, 0, true⟩).result = .ok [hit] ∧
      s.schema.Reports ((names ++ ["distance"]).zip (values ++ [.int 2])) hit ∧
      (Value.int 2).readDistance = .ok hit.distance) ∧
    ∃ hit, ((s.getByIds ids).run fetched () ⟨true, 0, true⟩).result = .ok [hit] ∧
      s.schema.Reports (names.zip values) hit ∧ hit.distance = none := by
  intro s request ids names values server searched fetched
  have hdistance : "distance" ∉ s.schema.selectColumns := by decide
  obtain ⟨-, -, hsearch, -⟩ := s.reports_run searched () ⟨true, 0, true⟩
  obtain ⟨-, -, -, hget⟩ := s.reports_run fetched () ⟨true, 0, true⟩
  have hsearched : ((s.search request).run searched () ⟨true, 0, true⟩).result.toBool = true := by
    decide +kernel
  have hfetched : ((s.getByIds ids).run fetched () ⟨true, 0, true⟩).result.toBool = true := by
    decide +kernel
  refine ⟨hdistance, rfl, ?_, ?_⟩
  · cases hresult : ((s.search request).run searched () ⟨true, 0, true⟩).result with
    | error failure =>
      rw [hresult] at hsearched
      cases hsearched
    | ok kept =>
      obtain ⟨query, answer, found, hquery, hcontact, hkept, hrows⟩ :=
        hsearch request kept hresult hdistance
      obtain ⟨_, hreply⟩ := exists_state_of_mem_run hcontact
      cases hreply
      obtain ⟨hall, hlast⟩ := hrows _ [values ++ [.int 2]] (Schema.outputNames?_search hquery) rfl
        (by decide)
      obtain ⟨hit, rfl⟩ := List.length_eq_one_iff.mp hall.length
      obtain ⟨value, hvalue, hread⟩ := hlast _ _ List.mem_cons_self
      cases hvalue
      exact ⟨hit, by rw [hkept]; rfl, hall.reports _ _ List.mem_cons_self, hread⟩
  · cases hresult : ((s.getByIds ids).run fetched () ⟨true, 0, true⟩).result with
    | error failure =>
      rw [hresult] at hfetched
      cases hfetched
    | ok found =>
      obtain ⟨query, answer, hquery, hcontact, hrows⟩ := (hget ids found hresult).2 rfl
      obtain ⟨_, hreply⟩ := exists_state_of_mem_run hcontact
      cases hreply
      obtain ⟨hall, hnone⟩ := hrows _ [values] (Schema.outputNames?_getByIds hquery) rfl (by decide)
      obtain ⟨hit, rfl⟩ := List.length_eq_one_iff.mp hall.length
      exact ⟨hit, rfl, hall.reports _ _ List.mem_cons_self,
        (hnone _ _ List.mem_cons_self).1 hdistance⟩

/-- With a metadata column called `distance` a search has two columns of one name, and what is stored in that column is taken for the distance of a match that has none. -/
theorem not_nodup_outputNames_distance :
    let s : Store := ⟨⟨{ Draft.ofTable "t" with
      metadataColumns := [.named "distance"], jsonColumn := none }, by decide⟩,
      .cosine, none, ⟨⟨4, by decide⟩, none, ⟨2, by decide⟩⟩⟩
    let request : SearchRequest := ⟨.list [.float 1], .int 3, .null, none, rfl, rfl⟩
    let server : Server Unit := fun _ contact => match contact with
      | .statement _ => (.ok (.table ["distance", "langchain_id", "content", "embedding"]
        [[.int 7, .text "x", .text "hello", .null]]), ())
      | _ => (.ok .null, ())
    (∃ query names, s.schema.search s.distance request = .ok query ∧
      outputNames? query.sql = some names ∧ ¬ names.Nodup) ∧
    ∃ hit, ((s.getByIds (.list [.text "x"])).run server () ⟨true, 0, true⟩).result = .ok [hit] ∧
      hit.distance.isSome = true := by
  intro s request server
  have hvector : formatVector request.embedding = .ok (writeVector [1]) := formatVector_list [1]
  obtain ⟨query, hquery⟩ : ∃ query, s.schema.search s.distance request = .ok query :=
    ⟨_, by rw [Schema.search, hvector]; rfl⟩
  refine ⟨⟨query, _, hquery, Schema.outputNames?_search hquery, by decide⟩, ?_⟩
  have hfound : ((s.getByIds (.list [.text "x"])).run server () ⟨true, 0, true⟩).result.toOption.map
      (List.map fun hit => hit.distance.isSome) = some [true] := by decide +kernel
  cases hresult : ((s.getByIds (.list [.text "x"])).run server () ⟨true, 0, true⟩).result with
  | error failure =>
    rw [hresult] at hfound
    cases hfound
  | ok found =>
    rw [hresult] at hfound
    obtain ⟨hit, rfl, hdistance⟩ := List.map_eq_singleton_iff.mp (Option.some.inj hfound)
    exact ⟨hit, rfl, hdistance⟩

end Store

end VectorTable
