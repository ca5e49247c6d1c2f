import Mathlib.Data.List.Nodup
import VectorTable.Proofs.Schema.Columns
import VectorTable.Proofs.Value.Entries
import VectorTable.Proofs.Vector.Text
import VectorTable.Query

/-!
# Inserting a record and reading it back

The row that an insertion binds for a record is read back as a match with what was in the record.
Of the metadata, an entry comes back if the table has a place for it: a column of its own with
something in it, or the JSON column. Entries with the names of other columns are no exception, since
every column of the row is found by a name that no other column has.
-/

namespace VectorTable

open Decimal

namespace Json

theorem encode_eq_ok_iff {v : Value} {text : String} :
    encode v = .ok text ↔ obstacle? numberLimit v = none ∧ text = write v := by
  rw [encode]
  cases obstacle? numberLimit v <;> simp [eq_comm]

/-- Whether a value can be written and is read back from its text. -/
structure IsReadBack (v : Value) : Prop where
  writable : obstacle? numberLimit v = none
  read_write : read (write v) = .ok v

end Json

namespace Schema

variable (s : Schema)

def namedRow (id : Value) (vector : String) (text : Option String)
    (metadata : List (String × Value)) (json : Value) : List (String × Value) :=
  [(s.idColumn, id), (s.embeddingColumn, .text vector), (s.contentColumn, Value.ofText? text)]
    ++ s.metadataNames.map (fun name => (name, (lookupName metadata name).getD .null))
    ++ s.jsonColumn.toList.map fun name => (name, json)

theorem map_fst_namedRow (id : Value) (vector : String) (text : Option String)
    (metadata : List (String × Value)) (json : Value) :
    (s.namedRow id vector text metadata json).map Prod.fst = s.insertColumns := by
  simp [namedRow, insertColumns, Function.comp_def]

def jsonText (metadata : List (String × Value)) : Value :=
  if (s.overflow metadata).isEmpty then .null
  else .text (Json.write (.record (s.overflow metadata)))

theorem jsonValues_eq {metadata : List (String × Value)}
    (hjson : s.jsonColumn.isSome = true →
      Json.obstacle? Json.numberLimit (.record (s.overflow metadata)) = none) :
    s.jsonValues metadata = .ok (s.jsonColumn.toList.map fun _ => s.jsonText metadata) := by
  rw [jsonValues]
  cases hcolumn : s.jsonColumn with
  | none => rfl
  | some name =>
    have hencode := Json.encode_eq_ok_iff.mpr ⟨hjson (by rw [hcolumn]; rfl), rfl⟩
    cases hempty : (s.overflow metadata).isEmpty <;>
      simp [jsonValue, jsonText, hempty, hencode]

theorem zip_map_self (names : List String) (f : String → Value) :
    names.zip (names.map f) = names.map fun name => (name, f name) := by
  induction names with
  | nil => rfl
  | cons name names ih => rw [List.map_cons, List.zip_cons_cons, ih, List.map_cons]

theorem zip_insertColumns (id : Value) (vector : String) (text : Option String)
    (metadata : List (String × Value)) (json : Value) :
    s.insertColumns.zip ([id, .text vector, Value.ofText? text] ++ s.declaredValues metadata
      ++ s.jsonColumn.toList.map fun _ => json) = s.namedRow id vector text metadata json := by
  have hfirst : ∀ a b c : Value, [s.idColumn, s.embeddingColumn, s.contentColumn].zip [a, b, c] =
      [(s.idColumn, a), (s.embeddingColumn, b), (s.contentColumn, c)] := fun _ _ _ => rfl
  rw [insertColumns, List.zip_append (by simp [declaredValues]), List.zip_append (by simp), hfirst,
    declaredValues, zip_map_self, zip_map_self]
  rfl

theorem exists_row {r : Record} {components : List Float}
    (hembedding : r.embedding = .list (components.map .float))
    (hjson : s.jsonColumn.isSome = true →
      Json.obstacle? Json.numberLimit (.record (s.overflow r.metadata)) = none) :
    ∃ row, s.row r = .ok row ∧ s.insertColumns.zip row =
      s.namedRow r.id (writeVector components) r.text r.metadata (s.jsonText r.metadata) := by
  have hvector : formatVector r.embedding = .ok (writeVector components) := by
    rw [hembedding, formatVector_list]
  refine ⟨_, ?_, s.zip_insertColumns _ _ _ _ _⟩
  simp only [row, hvector, s.jsonValues_eq hjson, bind, Except.bind, pure, Except.pure]

theorem lookupName_namedRow {id : Value} {vector : String} {text : Option String}
    {metadata : List (String × Value)} {json : Value} {name : String} {value : Value}
    (h : (name, value) ∈ s.namedRow id vector text metadata json) :
    lookupName (s.namedRow id vector text metadata json) name = some value := by
  have hnodup : ((s.namedRow id vector text metadata json).map Prod.fst).Nodup := by
    rw [map_fst_namedRow]
    exact s.nodup_insertColumns
  exact (lookupName_eq_some_iff hnodup).mpr h

theorem column_namedRow {id : Value} {vector : String} {text : Option String}
    {metadata : List (String × Value)} {json : Value} {name : String} {value : Value}
    (h : (name, value) ∈ s.namedRow id vector text metadata json) :
    (Value.record (s.namedRow id vector text metadata json)).column name = .ok value := by
  rw [Value.column_record, s.lookupName_namedRow h, Option.getD_some]

/-! ### Metadata -/

/-- Whether a table has a place for an entry: a column of its own with something in it, or the JSON column. -/
def keeps (entry : String × Value) : Bool :=
  if s.metadataNames.contains entry.1 then !entry.2.isNull else s.jsonColumn.isSome

/-- The metadata of a column, unless there is nothing in it. -/
def columnMetadata? (metadata : List (String × Value)) (name : String) : Option (String × Value) :=
  ((lookupName metadata name).filter fun value => !value.isNull).map fun value => (name, value)

/-- The metadata that are read back: first those from the JSON column, then those from columns of their own. -/
def readBack (metadata : List (String × Value)) : List (String × Value) :=
  (if s.jsonColumn.isSome then s.overflow metadata else [])
    ++ s.metadataNames.filterMap (columnMetadata? metadata)

theorem columnMetadata?_eq_some_iff {metadata : List (String × Value)}
    (hkeys : (metadata.map Prod.fst).Nodup) {column name : String} {value : Value} :
    columnMetadata? metadata column = some (name, value) ↔
      column = name ∧ (name, value) ∈ metadata ∧ value.isNull = false := by
  rw [← lookupName_eq_some_iff hkeys, columnMetadata?, Option.map_eq_some_iff]
  constructor
  · rintro ⟨other, hother, hpair⟩
    rw [Option.filter_eq_some_iff] at hother
    injection hpair with hname hvalue
    subst hname hvalue
    exact ⟨rfl, hother.1, by simpa using hother.2⟩
  · rintro ⟨rfl, hlookup, hnull⟩
    exact ⟨value, Option.filter_eq_some_iff.mpr ⟨hlookup, by simpa using hnull⟩, rfl⟩

theorem mem_overflow {metadata : List (String × Value)} {entry : String × Value} :
    entry ∈ s.overflow metadata ↔ entry ∈ metadata ∧ entry.1 ∉ s.metadataNames := by
  rw [overflow, List.mem_filter]
  simp

theorem mem_readBack {metadata : List (String × Value)} (hkeys : (metadata.map Prod.fst).Nodup)
    (entry : String × Value) :
    entry ∈ s.readBack metadata ↔ entry ∈ metadata.filter s.keeps := by
  obtain ⟨name, value⟩ := entry
  rw [readBack, List.mem_append, List.mem_filter, keeps, List.mem_filterMap]
  simp only [columnMetadata?_eq_some_iff hkeys]
  by_cases hname : name ∈ s.metadataNames
  · have hover : (name, value) ∉ s.overflow metadata := fun h => (s.mem_overflow.mp h).2 hname
    cases s.jsonColumn.isSome <;> simp [hname, hover]
  · have hover : (name, value) ∈ s.overflow metadata ↔ (name, value) ∈ metadata := by
      rw [mem_overflow]
      exact and_iff_left hname
    cases s.jsonColumn.isSome <;> simp [hname, hover]

theorem nodup_readBack {metadata : List (String × Value)} (hkeys : (metadata.map Prod.fst).Nodup) :
    (s.readBack metadata).Nodup := by
  refine List.nodup_append.mpr ⟨?_, ?_, ?_⟩
  · split
    · exact (List.Nodup.of_map _ hkeys).filter _
    · exact .nil
  · refine s.nodup_metadataNames.filterMap fun name other entry hname hother => ?_
    have hfirst := (columnMetadata?_eq_some_iff hkeys).mp hname
    have hsecond := (columnMetadata?_eq_some_iff hkeys).mp hother
    exact hfirst.1.trans hsecond.1.symm
  · rintro entry hentry other hother rfl
    obtain ⟨name, hname, hcolumn⟩ := List.mem_filterMap.mp hother
    have heq := ((columnMetadata?_eq_some_iff hkeys).mp hcolumn).1
    split at hentry
    · exact (s.mem_overflow.mp hentry).2 (heq ▸ hname)
    · cases hentry

theorem perm_readBack {metadata : List (String × Value)}
    (hkeys : (metadata.map Prod.fst).Nodup) :
    (s.readBack metadata).Perm (metadata.filter s.keeps) :=
  (List.perm_ext_iff_of_nodup (s.nodup_readBack hkeys) ((List.Nodup.of_map _ hkeys).filter _)).mpr
    (s.mem_readBack hkeys)

theorem jsonContent_namedRow {id : Value} {vector : String} {text : Option String}
    {metadata : List (String × Value)}
    (hjson : s.jsonColumn.isSome = true → Json.IsReadBack (.record (s.overflow metadata))) :
    s.jsonContent (.record (s.namedRow id vector text metadata (s.jsonText metadata))) =
      .ok (if s.jsonColumn.isSome ∧ s.overflow metadata ≠ [] then .record (s.overflow metadata)
        else .null) := by
  rw [jsonContent]
  cases hcolumn : s.jsonColumn with
  | none => rfl
  | some name =>
    have hmem : (name, s.jsonText metadata) ∈
        s.namedRow id vector text metadata (s.jsonText metadata) := by
      simp [namedRow, hcolumn]
    have hread := (hjson (by rw [hcolumn]; rfl)).read_write
    simp only [s.column_namedRow hmem]
    simp only [bind, Except.bind, jsonText]
    cases hempty : (s.overflow metadata).isEmpty with
    | true => simp [List.isEmpty_iff.mp hempty, pure, Except.pure]
    | false =>
      have hne : s.overflow metadata ≠ [] := by simpa using hempty
      simp [hne, hread, Except.mapError]

theorem putColumns_namedRow {id : Value} {vector : String} {text : Option String}
    {metadata : List (String × Value)} {json : Value} {names : List String}
    {done : List (String × Value)} (hnames : ∀ name ∈ names, name ∈ s.metadataNames)
    (hnodup : names.Nodup) (hdone : ∀ name ∈ names, name ∉ done.map Prod.fst) :
    putColumns (.record (s.namedRow id vector text metadata json)) (Value.textEntries done) names =
      .ok (Value.textEntries (done ++ names.filterMap (columnMetadata? metadata))) := by
  -- The columns are put after whatever has been put before, as long as their names are new.
  induction names generalizing done with
  | nil => simp [putColumns]
  | cons name names ih =>
    obtain ⟨hnot, hrest⟩ := List.nodup_cons.mp hnodup
    have hmem : (name, (lookupName metadata name).getD .null) ∈
        s.namedRow id vector text metadata json := by
      have hname := hnames name List.mem_cons_self
      simp [namedRow, hname]
    have hfresh : name ∉ done.map Prod.fst := hdone name List.mem_cons_self
    have hothers := fun other hother => hnames other (List.mem_cons_of_mem name hother)
    simp only [putColumns, s.column_namedRow hmem, bind, Except.bind, List.filterMap_cons]
    cases hentry : columnMetadata? metadata name with
    | none =>
      have hnull : ((lookupName metadata name).getD .null).isNull = true := by
        cases hvalue : lookupName metadata name with
        | none => rfl
        | some value => simpa [columnMetadata?, hvalue, Option.filter] using hentry
      rw [if_pos hnull]
      exact ih hothers hrest fun other hother => hdone other (List.mem_cons_of_mem name hother)
    | some entry =>
      obtain ⟨value, hvalue, rfl⟩ := Option.map_eq_some_iff.mp hentry
      obtain ⟨hlookup, hpresent⟩ := Option.filter_eq_some_iff.mp hvalue
      have hnull : value.isNull = false := by simpa using hpresent
      rw [hlookup, Option.getD_some, hnull, if_neg Bool.false_ne_true, Value.putEntry_textEntries hfresh,
        ih hothers hrest, List.append_assoc, List.singleton_append]
      intro other hother hmem
      rw [List.map_append, List.mem_append, List.map_singleton, List.mem_singleton] at hmem
      rcases hmem with hold | rfl
      · exact hdone other (List.mem_cons_of_mem name hother) hold
      · exact hnot hother

theorem rowMetadata_namedRow {id : Value} {vector : String} {text : Option String}
    {metadata : List (String × Value)} (hkeys : (metadata.map Prod.fst).Nodup)
    (hjson : s.jsonColumn.isSome = true → Json.IsReadBack (.record (s.overflow metadata))) :
    s.rowMetadata (.record (s.namedRow id vector text metadata (s.jsonText metadata))) =
      .ok (Value.textEntries (s.readBack metadata)) := by
  have hput : ∀ done : List (String × Value),
      (∀ entry ∈ done, entry.1 ∉ s.metadataNames) →
        putColumns (.record (s.namedRow id vector text metadata (s.jsonText metadata)))
            (Value.textEntries done) s.metadataNames =
          .ok (Value.textEntries (done ++ s.metadataNames.filterMap (columnMetadata? metadata))) := by
    intro done hdone
    refine s.putColumns_namedRow (fun _ hname => hname) s.nodup_metadataNames fun name hname hmem => ?_
    obtain ⟨entry, hentry, rfl⟩ := List.mem_map.mp hmem
    exact hdone entry hentry hname
  simp only [rowMetadata, s.jsonContent_namedRow hjson, bind, Except.bind]
  by_cases hcontent : s.jsonColumn.isSome = true ∧ s.overflow metadata ≠ []
  · have hnodup : (([] ++ s.overflow metadata).map Prod.fst).Nodup :=
      hkeys.sublist (List.filter_sublist.map Prod.fst)
    have hupdate : Value.updateEntries [] (.record (s.overflow metadata)) =
        .ok (Value.textEntries (s.overflow metadata)) :=
      congrArg Except.ok (Value.foldl_putEntry_textEntries (s.overflow metadata) hnodup)
    have htruthy : (Value.record (s.overflow metadata)).truthy = true := by
      simp [Value.record, Value.truthy, hcontent.2]
    rw [if_pos hcontent, if_pos htruthy, hupdate, readBack, if_pos hcontent.1]
    exact hput (s.overflow metadata) fun entry hentry => (s.mem_overflow.mp hentry).2
  · -- No overflow is stored as a null, and a null is read as no metadata.
    have hread : s.readBack metadata = s.metadataNames.filterMap (columnMetadata? metadata) := by
      rw [readBack]
      by_cases hjson : s.jsonColumn.isSome = true
      · have hempty : s.overflow metadata = [] := by simpa [hjson] using hcontent
        rw [if_pos hjson, hempty, List.nil_append]
      · rw [if_neg hjson, List.nil_append]
    rw [if_neg hcontent, hread]
    exact hput [] fun entry hentry => by cases hentry

/-- A record is read back from its row with its identifier, vector and text, without a distance, and with exactly those of its metadata that the table has a place for. -/
theorem rowToMatch_row {r : Record} {id : String} {components : List Float} (measure : Distance)
    (score : Float) (hdistance : "distance" ∉ s.insertColumns) (hid : r.id = .text id)
    (hembedding : r.embedding = .list (components.map .float))
    (hfinite : ∀ x ∈ components, (Double.ofFloat x).isFinite = true)
    (hfloats : ∀ x ∈ components, floatOfText (showFloat x) = .ok x)
    (hkeys : (r.metadata.map Prod.fst).Nodup)
    (hjson : s.jsonColumn.isSome = true → Json.IsReadBack (.record (s.overflow r.metadata))) :
    ∃ row m, s.insert [r] = .ok ⟨s.insertPieces, [row]⟩ ∧
      s.rowToMatch measure (some score) (.record (s.insertColumns.zip row)) = .ok m ∧
      m.id = id ∧ m.score = score ∧ m.distance = none ∧ m.embedding = some components ∧
      m.text = Value.ofText? r.text ∧
      m.metadata.Perm ((r.metadata.filter s.keeps).map fun (name, value) => (.text name, value)) := by
  obtain ⟨row, hrow, hzip⟩ := s.exists_row hembedding fun hcolumn => (hjson hcolumn).writable
  let named := s.namedRow r.id (writeVector components) r.text r.metadata (s.jsonText r.metadata)
  have hinsert : s.insert [r] = .ok ⟨s.insertPieces, [row]⟩ := by
    rw [insert, List.mapM_cons, hrow]
    rfl
  have hmetadata : s.rowMetadata (.record named) = .ok (Value.textEntries (s.readBack r.metadata)) :=
    s.rowMetadata_namedRow hkeys hjson
  have hnone : rowDistance (.record named) = .ok none := by
    have habsent : "distance" ∉ named.map Prod.fst := by
      rw [map_fst_namedRow]
      exact hdistance
    rw [rowDistance, Value.column_record, lookupName_eq_none habsent]
    rfl
  have hidentifier : (Value.record named).requiredColumn s.idColumn = .ok (.text id) := by
    have hcolumn : lookupName named s.idColumn = some r.id :=
      s.lookupName_namedRow (by simp [namedRow])
    rw [← hid]
    exact Value.requiredColumn_record hcolumn
  have hvector : (Value.record named).column s.embeddingColumn =
      .ok (.text (writeVector components)) := s.column_namedRow (by simp [namedRow])
  have htext : (Value.record named).column s.contentColumn = .ok (Value.ofText? r.text) :=
    s.column_namedRow (by simp [namedRow])
  have hparse : parseVector (.text (writeVector components)) = .ok (some components) := by
    rw [parseVector, readVector_writeVector hfinite hfloats]
    rfl
  refine ⟨row, ⟨id, score, none, some components, Value.ofText? r.text,
    Value.textEntries (s.readBack r.metadata)⟩, hinsert, ?_, rfl, rfl, rfl, rfl, rfl, ?_⟩
  · rw [hzip]
    change s.rowToMatch measure (some score) (.record named) = _
    simp only [rowToMatch, hmetadata, hnone, hidentifier, hvector, htext, hparse, rowScore, bind,
      Except.bind, pure, Except.pure, Value.plain]
  · exact (s.perm_readBack hkeys).map _

/-- A key that is the name of another column is metadata like any other. -/
theorem rowToMatch_row_columnName :
    let s : Schema := ⟨{ Draft.ofTable "t" with metadataColumns := [.named "year"] }, by decide⟩
    let r : Record := ⟨.text "a", .list [.float 1.5, .float (-0.25)], none,
      [("content", .text "x"), ("year", .int 3)]⟩
    ∃ row m, s.insert [r] = .ok ⟨s.insertPieces, [row]⟩ ∧
      s.rowToMatch .cosine (some 1) (.record (s.insertColumns.zip row)) = .ok m ∧ m.id = "a" ∧
      m.score = 1 ∧ m.distance = none ∧ m.embedding = some [1.5, -0.25] ∧ m.text = .null ∧
      m.metadata.Perm [(.text "content", .text "x"), (.text "year", .int 3)] := by
  intro s r
  have hfloats : ∀ x ∈ [1.5, -0.25], floatOfText (showFloat x) = .ok x := by
    have hread : ∀ x ∈ [1.5, -0.25], readFloat? (showFloat x) = some x := by decide
    intro x hx
    rw [floatOfText, hread x hx]
  have hjson : Json.IsReadBack (.record [("content", .text "x")]) := by
    refine ⟨rfl, ?_⟩
    have hread : ((Json.read (Json.write (.record [("content", .text "x")]))).toOption.any
        fun v => v.same (.record [("content", .text "x")])) = true := by decide +kernel
    cases hvalue : Json.read (Json.write (.record [("content", .text "x")])) with
    | error failure =>
      rw [hvalue] at hread
      cases hread
    | ok v =>
      rw [hvalue] at hread
      rw [Value.eq_record_of_same hread]
  exact s.rowToMatch_row (r := r) .cosine 1 (by decide) rfl rfl (by decide) hfloats (by decide)
    fun _ => hjson

end Schema

end VectorTable
