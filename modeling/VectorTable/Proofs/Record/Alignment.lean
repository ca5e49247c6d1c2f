import Mathlib.Data.List.Sort
import Mathlib.Data.String.Basic
import VectorTable.Proofs.Record.RoundTrip
import VectorTable.Proofs.Sql.Text
import VectorTable.Proofs.Store.Insert

/-!
# What an insertion binds, column by column

An insertion names its columns, gives each of them a slot, and binds a value to each slot. The three lists have the same length and order, and since no two columns share a name, a value can be found by the name of its column. The identifier, the vector and the content stand in their columns whatever keys the metadata have. The metadata are parted by their keys: those with a column stand there, all others stand together in the JSON column or are reported as dropped. Their order has no part in this but for the order within the JSON text.
-/

namespace VectorTable

open Sql

/-! ### Objects as JSON text -/

namespace Json

def memberText (entry : String × Value) : String := writeText entry.1 ++ ": " ++ write entry.2

/-- The text of an object with the given members. -/
def objectText (members : List String) : String := "\x7b" ++ commaSeparated members ++ "\x7d"

theorem writeEntries_textEntries (entries : List (String × Value)) :
    writeEntries (Value.textEntries entries) = entries.map memberText := by
  induction entries with
  | nil => rfl
  | cons entry entries ih =>
    rw [Value.textEntries] at ih ⊢
    rw [List.map_cons, writeEntries, ih, List.map_cons]
    rfl

theorem write_record (entries : List (String × Value)) :
    write (.record entries) = objectText (entries.map memberText) := by
  rw [← writeEntries_textEntries]
  rfl

theorem obstacle?_record_eq_none_iff (limit : Option Nat) (entries : List (String × Value)) :
    obstacle? limit (.record entries) = none ↔
      ∀ entry ∈ entries, obstacle? limit entry.2 = none := by
  have hentries : obstacleOf? limit (Value.textEntries entries) = none ↔
      ∀ entry ∈ entries, obstacle? limit entry.2 = none := by
    induction entries with
    | nil => simp [Value.textEntries, obstacleOf?]
    | cons entry entries ih =>
      have hname : nameObstacle? limit (.text entry.1) = none := rfl
      rw [Value.textEntries] at ih ⊢
      rw [List.map_cons, obstacleOf?, hname, Option.none_or, Option.or_eq_none_iff, ih,
        List.forall_mem_cons]
  exact hentries

end Json

namespace Schema

variable (s : Schema)

/-! ### The text of an insertion -/

/-- The slot of each insert column, as the text has it. -/
def placeholders : List String := (s.insertSlots 1 s.insertColumns).map render

theorem length_insertSlots (start : Int) (columns : List String) :
    (s.insertSlots start columns).length = columns.length := by
  induction columns generalizing start with
  | nil => rfl
  | cons column columns ih => rw [insertSlots, List.length_cons, ih, List.length_cons]

theorem getElem?_insertSlots (start : Int) (columns : List String) (position : Nat) :
    (s.insertSlots start columns)[position]? = columns[position]?.map fun column =>
      .slot (start + position) :: if column = s.embeddingColumn then [.raw "::vector"] else [] := by
  induction columns generalizing start position with
  | nil => rfl
  | cons column columns ih =>
    cases position with
    | zero => simp [insertSlots]
    | succ position =>
      have hstart : start + 1 + (position : Int) = start + (position + 1 : Nat) := by omega
      rw [insertSlots, List.getElem?_cons_succ, List.getElem?_cons_succ, ih, hstart]

theorem getElem?_placeholders (position : Nat) :
    s.placeholders[position]? = s.insertColumns[position]?.map fun column =>
      slotText (position + 1) ++ if column = s.embeddingColumn then "::vector" else "" := by
  rw [placeholders, List.getElem?_map, getElem?_insertSlots, Option.map_map]
  congr 1
  funext column
  have hindex : 1 + (position : Int) = position + 1 := Int.add_comm _ _
  by_cases hcolumn : column = s.embeddingColumn <;> simp [hcolumn, hindex]

theorem length_placeholders : s.placeholders.length = s.insertColumns.length := by
  rw [placeholders, List.length_map, length_insertSlots]

theorem length_insertColumns :
    s.insertColumns.length = 3 + s.metadataNames.length + s.jsonColumn.toList.length := by
  rw [insertColumns, List.length_append, List.length_append]
  rfl

theorem getElem?_insertColumns_eq_embedding_iff (position : Nat) :
    s.insertColumns[position]? = some s.embeddingColumn ↔ position = 1 := by
  have hsecond : s.insertColumns[1]? = some s.embeddingColumn := rfl
  have hlength : 1 < s.insertColumns.length := by
    rw [length_insertColumns]
    omega
  rw [← hsecond, eq_comm, List.getElem?_inj hlength s.nodup_insertColumns, eq_comm]

theorem render_nameList (names : List String) :
    render (nameList names) = String.intercalate ", " (names.map quoteName) := by
  simp [nameList, render_separated, Function.comp_def]

theorem render_insertPieces :
    render s.insertPieces = "INSERT INTO " ++ s.qualifiedTable ++ " ("
      ++ String.intercalate ", " (s.insertColumns.map quoteName) ++ ") VALUES ("
      ++ String.intercalate ", " s.placeholders ++ ")" := by
  simp [insertPieces, qualifiedTable, render_nameList, render_separated, placeholders,
    String.append_assoc]

/-! ### Rows -/

/-- What stands for metadata without a column: nothing if there are none, else an object with just these. -/
def encoded (entries : List (String × Value)) : Value :=
  if entries = [] then .null else .text (Json.objectText (entries.map Json.memberText))

theorem encoded_eq_null_iff (entries : List (String × Value)) :
    encoded entries = .null ↔ entries = [] := by
  rw [encoded]
  split <;> simp_all

theorem jsonValue_eq_ok_iff {overflow : List (String × Value)} {value : Value} :
    jsonValue overflow = .ok value ↔
      (∀ entry ∈ overflow, Json.obstacle? Json.numberLimit entry.2 = none) ∧
        value = encoded overflow := by
  rw [← Json.obstacle?_record_eq_none_iff]
  by_cases hempty : overflow = []
  · subst hempty
    have hname : Json.obstacle? Json.numberLimit (.record []) = none := rfl
    constructor
    · rintro ⟨⟩
      exact ⟨hname, rfl⟩
    · rintro ⟨-, rfl⟩
      rfl
  · have htext : encoded overflow = .text (Json.write (.record overflow)) := by
      rw [encoded, if_neg hempty, Json.write_record]
    rw [jsonValue, if_neg (by simpa using hempty), htext, Json.encode]
    cases hobstacle : Json.obstacle? Json.numberLimit (.record overflow) with
    | some obstacle => simp
    | none => simp [eq_comm]

/-- Whether a record can be written: its vector is one, and all metadata for the JSON column can be encoded. -/
def CanWrite (r : Record) : Prop :=
  (∃ vector, formatVector r.embedding = .ok vector) ∧
    (s.jsonColumn.isSome = true →
      ∀ entry ∈ s.overflow r.metadata, Json.obstacle? Json.numberLimit entry.2 = none)

theorem jsonValues_eq_ok_iff {metadata : List (String × Value)} {json : List Value} :
    s.jsonValues metadata = .ok json ↔
      (s.jsonColumn.isSome = true →
        ∀ entry ∈ s.overflow metadata, Json.obstacle? Json.numberLimit entry.2 = none) ∧
      json = s.jsonColumn.toList.map fun _ => encoded (s.overflow metadata) := by
  rw [jsonValues]
  cases s.jsonColumn with
  | none => simp [eq_comm]
  | some name =>
    simp only [bind_eq_ok_iff, jsonValue_eq_ok_iff, Option.isSome_some, true_implies]
    constructor
    · rintro ⟨value, ⟨hnames, rfl⟩, hjson⟩
      cases hjson
      exact ⟨hnames, rfl⟩
    · rintro ⟨hnames, rfl⟩
      exact ⟨_, ⟨hnames, rfl⟩, rfl⟩

theorem row_eq_ok_iff {r : Record} {row : List Value} :
    s.row r = .ok row ↔ s.CanWrite r ∧ ∃ vector, formatVector r.embedding = .ok vector ∧
      row = [r.id, .text vector, Value.ofText? r.text] ++ s.declaredValues r.metadata
        ++ s.jsonColumn.toList.map fun _ => encoded (s.overflow r.metadata) := by
  simp only [Schema.row, bind_eq_ok_iff, jsonValues_eq_ok_iff]
  constructor
  · rintro ⟨vector, hvector, json, ⟨hnames, rfl⟩, hrow⟩
    cases hrow
    exact ⟨⟨⟨vector, hvector⟩, hnames⟩, vector, hvector, rfl⟩
  · rintro ⟨⟨-, hnames⟩, vector, hvector, rfl⟩
    exact ⟨vector, hvector, _, ⟨hnames, rfl⟩, rfl⟩

theorem exists_row_iff {r : Record} : (∃ row, s.row r = .ok row) ↔ s.CanWrite r := by
  simp only [row_eq_ok_iff]
  constructor
  · rintro ⟨row, hwrite, -⟩
    exact hwrite
  · intro hwrite
    obtain ⟨vector, hvector⟩ := hwrite.1
    exact ⟨_, hwrite, vector, hvector, rfl⟩

/-- The value that a row has for a column. -/
def bound? (row : List Value) (column : String) : Option Value :=
  lookupName (s.insertColumns.zip row) column

/-- A row holds a record: it has a value for each insert column, and each is the one that the record has for the column. -/
structure Holds (r : Record) (row : List Value) : Prop where
  length_eq : row.length = s.insertColumns.length
  id_eq : s.bound? row s.idColumn = some r.id
  embedding_eq : ∃ vector, formatVector r.embedding = .ok vector ∧
    s.bound? row s.embeddingColumn = some (.text vector)
  content_eq : s.bound? row s.contentColumn = some (Value.ofText? r.text)
  declared_eq : ∀ name ∈ s.metadataNames,
    s.bound? row name = some ((lookupName r.metadata name).getD .null)
  json_eq : ∀ name ∈ s.jsonColumn, s.bound? row name = some (encoded (s.overflow r.metadata))
  json_eq_null_iff : ∀ name ∈ s.jsonColumn,
    s.bound? row name = some .null ↔ s.overflow r.metadata = []

theorem holds_of_row {r : Record} {row : List Value} (hrow : s.row r = .ok row) :
    s.Holds r row := by
  obtain ⟨-, vector, hvector, heq⟩ := s.row_eq_ok_iff.mp hrow
  let named := s.namedRow r.id vector r.text r.metadata (encoded (s.overflow r.metadata))
  have hzip : s.insertColumns.zip row = named := by rw [heq, s.zip_insertColumns]
  -- No two columns share a name, so a value is found wherever it stands in the row.
  have hbound : ∀ {name value}, (name, value) ∈ named → s.bound? row name = some value := by
    intro name value hmem
    rw [bound?, hzip]
    exact s.lookupName_namedRow hmem
  have hjson : ∀ name ∈ s.jsonColumn, s.bound? row name = some (encoded (s.overflow r.metadata)) :=
    fun name hname => hbound (by simp [named, namedRow, Option.mem_def.mp hname])
  exact {
    length_eq := by
      simp [heq, insertColumns, declaredValues]
    id_eq := hbound (by simp [named, namedRow])
    embedding_eq := ⟨vector, hvector, hbound (by simp [named, namedRow])⟩
    content_eq := hbound (by simp [named, namedRow])
    declared_eq := fun name hname => hbound (by simp [named, namedRow, hname])
    json_eq := hjson
    json_eq_null_iff := fun name hname => by
      rw [hjson name hname, Option.some_inj, encoded_eq_null_iff] }

/-! ### Dropped metadata -/

theorem pairwise_dropped (r : Record) : (s.dropped r).Pairwise (· ≤ ·) := by
  rw [dropped]
  split
  · exact .nil
  · exact List.pairwise_mergeSort' (· ≤ ·) _

theorem perm_dropped (hjson : s.jsonColumn = none) (r : Record) :
    (s.dropped r).Perm ((s.overflow r.metadata).map Prod.fst) := by
  rw [dropped, hjson]
  exact List.mergeSort_perm _ _

/-- The report of the metadata that a record loses, if it loses any. -/
def lossReport (r : Record) : History :=
  if s.dropped r = [] then []
  else [.note (.log (Log.event statementLogger .debug "Dropping metadata keys without a column"
    [tableField s, ("record_id", r.id), ("keys", .list ((s.dropped r).map .text))]))]

theorem history_of_noteDropped {r : Record} {m : Memory} {h : History}
    {result : Except Failure Unit} (hpath : Program.Path (s.noteDropped r) m h result) : h = s.lossReport r := by
  rw [noteDropped] at hpath
  rw [lossReport]
  by_cases hdropped : s.dropped r = []
  · rw [if_pos (by simpa using hdropped)] at hpath
    rw [if_pos hdropped]
    exact (Program.path_done_iff.mp hpath).1
  · rw [if_neg (by simpa using hdropped)] at hpath
    rw [if_neg hdropped]
    obtain ⟨rest, rfl, hrest⟩ := Program.path_tell_iff.mp hpath
    rw [(Program.path_done_iff.mp hrest).1]

/-- While rows are made, exactly the losses are reported, record by record. -/
theorem history_of_rowsNoted {records : List Record} {m : Memory} {h : History}
    {rows : List (List Value)} (hpath : Program.Path (s.rowsNoted records) m h (.ok rows)) :
    h = records.flatMap s.lossReport := by
  induction records generalizing m h rows with
  | nil => exact (Program.path_done_iff.mp hpath).1
  | cons r records ih =>
    obtain ⟨row, -, hpath⟩ := Program.path_ofExcept_bind_ok_iff.mp hpath
    obtain ⟨h₁, h₂, _, rfl, hnote, hpath⟩ := Program.path_bind_ok_iff.mp hpath
    obtain ⟨h₃, h₄, more, rfl, hmore, hpath⟩ := Program.path_bind_ok_iff.mp hpath
    obtain ⟨rfl, -⟩ := Program.path_done_iff.mp hpath
    rw [List.flatMap_cons, s.history_of_noteDropped hnote, ih hmore, List.append_nil]

/-! ### The order of metadata -/

theorem lookupName_of_perm {entries others : List (String × Value)} (hperm : entries.Perm others)
    (hkeys : (entries.map Prod.fst).Nodup) (name : String) :
    lookupName entries name = lookupName others name := by
  have hother : (others.map Prod.fst).Nodup := (hperm.map Prod.fst).nodup_iff.mp hkeys
  ext value
  rw [lookupName_eq_some_iff hkeys, lookupName_eq_some_iff hother, hperm.mem_iff]

variable {s} in
theorem perm_overflow {metadata others : List (String × Value)} (hperm : metadata.Perm others) :
    (s.overflow metadata).Perm (s.overflow others) := hperm.filter _

variable {s} in
theorem canWrite_iff_of_perm {r : Record} {metadata : List (String × Value)}
    (hperm : r.metadata.Perm metadata) : s.CanWrite r ↔ s.CanWrite { r with metadata } := by
  rw [CanWrite, CanWrite]
  refine and_congr_right fun _ => imp_congr_right fun _ => ?_
  exact forall_congr' fun entry => by rw [(perm_overflow hperm).mem_iff]

theorem dropped_of_perm {r : Record} {metadata : List (String × Value)}
    (hperm : r.metadata.Perm metadata) : s.dropped { r with metadata } = s.dropped r := by
  have hnone : s.jsonColumn = none ∨ s.jsonColumn.isSome = true := by
    cases s.jsonColumn <;> simp
  rcases hnone with hnone | hsome
  · refine List.Perm.eq_of_pairwise' (s.pairwise_dropped _) (s.pairwise_dropped _) ?_
    refine (s.perm_dropped hnone _).trans (.trans ?_ (s.perm_dropped hnone r).symm)
    exact ((perm_overflow hperm).map Prod.fst).symm
  · rw [dropped, dropped, if_pos hsome, if_pos hsome]

/-- Two rows are equal but for the order of the members in the JSON text. -/
structure EqualButOrder (row other : List Value) : Prop where
  bound_eq : ∀ column ∈ s.insertColumns, column ∉ s.jsonColumn →
    s.bound? row column = s.bound? other column
  json_perm : ∀ name ∈ s.jsonColumn, ∃ entries others, entries.Perm others ∧
    s.bound? row name = some (encoded entries) ∧ s.bound? other name = some (encoded others)

theorem equalButOrder_of_perm {r : Record} {metadata : List (String × Value)}
    (hperm : r.metadata.Perm metadata) (hkeys : (r.metadata.map Prod.fst).Nodup)
    {row other : List Value} (hrow : s.row r = .ok row)
    (hother : s.row { r with metadata } = .ok other) : s.EqualButOrder row other := by
  have hholds := s.holds_of_row hrow
  have hholds' := s.holds_of_row hother
  constructor
  · intro column hcolumn hjson
    simp only [insertColumns, List.mem_append, List.mem_cons, List.not_mem_nil, or_false,
      Option.mem_toList] at hcolumn
    rcases hcolumn with ((rfl | rfl | rfl) | hname) | hname
    · rw [hholds.id_eq, hholds'.id_eq]
    · obtain ⟨vector, hvector, hbound⟩ := hholds.embedding_eq
      obtain ⟨vector', hvector', hbound'⟩ := hholds'.embedding_eq
      rw [hbound, hbound', Except.ok.inj (hvector.symm.trans hvector')]
    · rw [hholds.content_eq, hholds'.content_eq]
    · rw [hholds.declared_eq column hname, hholds'.declared_eq column hname,
        lookupName_of_perm hperm hkeys]
    · exact absurd hname hjson
  · intro name hname
    exact ⟨_, _, perm_overflow hperm, hholds.json_eq name hname, hholds'.json_eq name hname⟩

/-! ### Insertions -/

theorem insert_eq_ok_iff {records : List Record} {batch : Batch} :
    s.insert records = .ok batch ↔
      ∃ rows, records.mapM s.row = .ok rows ∧ batch = ⟨s.insertPieces, rows⟩ := by
  rw [insert, bind_eq_ok_iff]
  constructor
  · rintro ⟨rows, hrows, hbatch⟩
    cases hbatch
    exact ⟨rows, hrows, rfl⟩
  · rintro ⟨rows, hrows, rfl⟩
    exact ⟨rows, hrows, rfl⟩

theorem exists_insert_iff (records : List Record) :
    (∃ batch, s.insert records = .ok batch) ↔ ∀ r ∈ records, s.CanWrite r := by
  have hrows : (∃ rows, records.mapM s.row = .ok rows) ↔ ∀ r ∈ records, s.CanWrite r := by
    simp only [exists_mapM_eq_ok_iff, exists_row_iff]
  rw [← hrows]
  constructor
  · rintro ⟨batch, hbatch⟩
    obtain ⟨rows, hmade, -⟩ := s.insert_eq_ok_iff.mp hbatch
    exact ⟨rows, hmade⟩
  · rintro ⟨rows, hmade⟩
    exact ⟨_, s.insert_eq_ok_iff.mpr ⟨rows, hmade, rfl⟩⟩

/-- There is a slot for each insert column, numbered by its position, and the vector alone is cast. -/
structure SlotsAligned : Prop where
  length_columns :
    s.insertColumns.length = 3 + s.metadataNames.length + s.jsonColumn.toList.length
  length_slots : s.placeholders.length = s.insertColumns.length
  slot_eq : ∀ (position : Nat) (column : String), s.insertColumns[position]? = some column →
    s.placeholders[position]? = some (slotText (position + 1)
      ++ if column = s.embeddingColumn then "::vector" else "")
  embedding_iff : ∀ position : Nat,
    s.insertColumns[position]? = some s.embeddingColumn ↔ position = 1

theorem slotsAligned : s.SlotsAligned where
  length_columns := s.length_insertColumns
  length_slots := s.length_placeholders
  slot_eq position column hcolumn := by rw [getElem?_placeholders, hcolumn, Option.map_some]
  embedding_iff := s.getElem?_insertColumns_eq_embedding_iff

/-- A batch binds records: its text lists the columns with their slots, it has a row for each record, and while the rows are made, exactly what they lose is reported. -/
structure Binds (records : List Record) (batch : Batch) : Prop where
  sql_eq : batch.sql = "INSERT INTO " ++ s.qualifiedTable ++ " ("
    ++ String.intercalate ", " (s.insertColumns.map quoteName) ++ ") VALUES ("
    ++ String.intercalate ", " s.placeholders ++ ")"
  length_eq : batch.rows.length = records.length
  holds : ∀ r row, (r, row) ∈ records.zip batch.rows → s.Holds r row
  result_eq : ∀ {σ : Type} (server : Server σ) (state : σ) (m : Memory),
    ((s.rowsNoted records).run server state m).result = .ok batch.rows
  history_eq : ∀ {σ : Type} (server : Server σ) (state : σ) (m : Memory),
    ((s.rowsNoted records).run server state m).history = records.flatMap s.lossReport

theorem binds_of_insert {records : List Record} {batch : Batch}
    (hbatch : s.insert records = .ok batch) : s.Binds records batch := by
  obtain ⟨rows, hrows, rfl⟩ := s.insert_eq_ok_iff.mp hbatch
  have hpath : ∀ {σ : Type} (server : Server σ) (state : σ) (m : Memory),
      ((s.rowsNoted records).run server state m).result = .ok rows ∧ Program.Path
        (s.rowsNoted records) m ((s.rowsNoted records).run server state m).history (.ok rows) := by
    intro σ server state m
    have hrun := Program.path_run server (s.rowsNoted records) state m
    have hresult := (path_rowsNoted hrun).2.trans hrows
    exact ⟨hresult, hresult ▸ hrun⟩
  exact {
    sql_eq := s.render_insertPieces
    length_eq := length_of_mapM hrows
    holds := fun r row hmem => s.holds_of_row (eq_ok_of_mem_zip_mapM hrows hmem)
    result_eq := fun server state m => (hpath server state m).1
    history_eq := fun server state m => s.history_of_rowsNoted (hpath server state m).2 }

/-- Columns, slots and rows of an insertion are aligned, every row holds its record, and what has no column is lost and reported only if there is no JSON column. The order of the metadata of a record changes the order of members in the JSON text and nothing else. -/
theorem insert_aligned (records : List Record) :
    s.SlotsAligned ∧
      ((∃ batch, s.insert records = .ok batch) ↔ ∀ r ∈ records, s.CanWrite r) ∧
      (∀ batch, s.insert records = .ok batch → s.Binds records batch) ∧
      (∀ r, (s.dropped r).Pairwise (· ≤ ·) ∧ (s.jsonColumn.isSome = true → s.dropped r = []) ∧
        (s.jsonColumn = none → (s.dropped r).Perm ((s.overflow r.metadata).map Prod.fst))) ∧
      ∀ r metadata, r.metadata.Perm metadata → (r.metadata.map Prod.fst).Nodup →
        (s.CanWrite r ↔ s.CanWrite { r with metadata }) ∧
          s.dropped { r with metadata } = s.dropped r ∧
          ∀ row other, s.row r = .ok row → s.row { r with metadata } = .ok other →
            s.EqualButOrder row other := by
  refine ⟨s.slotsAligned, s.exists_insert_iff records, fun _ => s.binds_of_insert, ?_, ?_⟩
  · intro r
    refine ⟨s.pairwise_dropped r, fun hjson => ?_, fun hjson => s.perm_dropped hjson r⟩
    rw [dropped, if_pos hjson]
  · intro r metadata hperm hkeys
    exact ⟨canWrite_iff_of_perm hperm, s.dropped_of_perm hperm,
      fun row other hrow hother => s.equalButOrder_of_perm hperm hkeys hrow hother⟩

/-- Metadata keys with the names of columns do not disturb what stands in these columns. -/
theorem insert_aligned_reservedKeys :
    let s : Schema :=
      ⟨{ Draft.ofTable "documents" with metadataColumns := [.named "category"] }, by decide⟩
    let r : Record := ⟨.text "a", .list [.float 1], some "text",
      [("content", .text "x"), ("category", .int 3), ("langchain_metadata", .bool true)]⟩
    let reversed : Record := { r with metadata := r.metadata.reverse }
    r.metadata.Perm reversed.metadata ∧ (r.metadata.map Prod.fst).Nodup ∧
      ∃ batch row other, s.insert [r] = .ok batch ∧ batch.rows = [row] ∧
        s.bound? row "content" = some (.text "text") ∧ s.bound? row "category" = some (.int 3) ∧
        s.bound? row "langchain_metadata" =
          some (.text "\x7b\"content\": \"x\", \"langchain_metadata\": true\x7d") ∧
        s.row r = .ok row ∧ s.row reversed = .ok other ∧ s.EqualButOrder row other := by
  intro s r reversed
  have hperm : r.metadata.Perm reversed.metadata := (List.reverse_perm _).symm
  have hkeys : (r.metadata.map Prod.fst).Nodup := by decide
  have hwrite : s.CanWrite r := by
    refine ⟨⟨_, formatVector_list [1]⟩, fun _ entry hentry => ?_⟩
    have hmem : entry ∈ r.metadata := (s.mem_overflow.mp hentry).1
    simp only [r, List.mem_cons, List.not_mem_nil, or_false] at hmem
    rcases hmem with rfl | rfl | rfl <;> rfl
  obtain ⟨-, hexists, hbinds, -, horder⟩ := s.insert_aligned [r]
  obtain ⟨hwrite', -, hequal⟩ := horder r reversed.metadata hperm hkeys
  obtain ⟨batch, hbatch⟩ := hexists.mpr (by simpa using hwrite)
  obtain ⟨rows, hrows, rfl⟩ := s.insert_eq_ok_iff.mp hbatch
  obtain ⟨row, hrow⟩ := s.exists_row_iff.mpr hwrite
  obtain ⟨other, hother⟩ := s.exists_row_iff.mpr (hwrite'.mp hwrite)
  have hsingle : rows = [row] := by
    rw [List.mapM_cons, hrow] at hrows
    exact (Except.ok.inj hrows).symm
  have hholds := (hbinds _ hbatch).holds r row (by simp [hsingle])
  refine ⟨hperm, hkeys, _, row, other, hbatch, hsingle, hholds.content_eq, ?_, ?_, hrow, hother,
    hequal row other hrow hother⟩
  · exact hholds.declared_eq "category" (by decide)
  · rw [hholds.json_eq "langchain_metadata" rfl]
    exact congrArg (some <| Value.text ·) (by decide)

end Schema

end VectorTable
