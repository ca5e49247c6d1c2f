import VectorTable.Proofs.Failure.Steps
import VectorTable.Proofs.Schema.Columns
import VectorTable.Proofs.Value.Entries
import VectorTable.Schema.Resolve

/-!
# Schemas that fit their tables

What a schema says of a table once it has been resolved against it. Resolving either fails or gives a schema whose columns all exist, with fitting types for the content and the vector. The metadata columns are the declared ones with their types filled in or, with columns to ignore, the columns that are left over; and since nothing is left open, resolving once more changes nothing.
-/

namespace VectorTable

/-! ### Columns as the table has them -/

/-- A typed column as one of the columns of a table. -/
def TypedColumn.entry (column : TypedColumn) : String × Value := (column.name, .text column.dataType)

theorem TypedColumn.entry_of_ofTable {name : String} {dataType : Value} {column : TypedColumn}
    (h : ofTable name dataType = .ok column) :
    column.entry = (name, dataType) ∧ column.nullable = true := by
  cases dataType with
  | text text =>
    rw [ofTable, declare] at h
    split at h
    · split at h
      · cases h
        exact ⟨rfl, rfl⟩
      · cases h
    · cases h
  | _ =>
    simp only [ofTable] at h
    split at h
    · cases h
    · split at h <;> cases h

/-- A column that is declared with its type keeps it, and one that is declared by name alone takes its type from the table. -/
def MetadataColumn.IsFilledBy (columns : TableColumns) : MetadataColumn → TypedColumn → Prop
  | typed column, filled => filled = column ∧ column.name ∈ columns.map Prod.fst
  | named name, filled =>
    filled.name = name ∧ filled.nullable = true ∧
      lookupName columns name = some (.text filled.dataType)

theorem MetadataColumn.isFilledBy_of_resolve {column : MetadataColumn} {columns : TableColumns}
    {table : String} {filled : TypedColumn} (h : column.resolve columns table = .ok filled) :
    column.IsFilledBy columns filled := by
  rw [resolve] at h
  split at h
  case h_1 => cases h
  case h_2 dataType hfound =>
    cases column with
    | typed column =>
      cases h
      exact ⟨rfl, isSome_lookupName_iff.mp (Option.isSome_iff_exists.mpr ⟨dataType, hfound⟩)⟩
    | named name =>
      obtain ⟨hentry, hnullable⟩ := TypedColumn.entry_of_ofTable h
      obtain ⟨hname, rfl⟩ := Prod.mk.inj hentry
      exact ⟨hname, hnullable, hfound⟩

theorem MetadataColumn.IsFilledBy.mem {column : MetadataColumn} {columns : TableColumns}
    {filled : TypedColumn} (h : column.IsFilledBy columns filled) :
    filled.name ∈ columns.map Prod.fst := by
  cases column with
  | typed column =>
    obtain ⟨rfl, hmem⟩ := h
    exact hmem
  | named name =>
    obtain ⟨rfl, -, hfound⟩ := h
    exact isSome_lookupName_iff.mp (Option.isSome_iff_exists.mpr ⟨_, hfound⟩)

namespace Schema

/-! ### Schemas from drafts -/

theorem ofDraft_eq_ok_iff {d : Draft} {s : Schema} :
    ofDraft d = .ok s ↔ s.toDraft = d.withoutBlankJson := by
  obtain ⟨draft, hsound⟩ := s
  simp only [ofDraft]
  split
  case h_1 h =>
    rw [Except.ok.injEq, mk.injEq]
    exact eq_comm
  case h_2 cause h =>
    refine ⟨nofun, fun heq => ?_⟩
    rw [← heq, hsound] at h
    cases h

theorem withoutBlankJson_eq {d : Draft}
    (hjson : ∀ name ∈ d.jsonColumn, Text.isBlankText name = false) : d.withoutBlankJson = d := by
  have hfilter : (d.jsonColumn.filter fun name => !Text.isBlankText name) = d.jsonColumn := by
    cases hname : d.jsonColumn with
    | none => rfl
    | some name => simp [hjson name hname]
  rw [Draft.withoutBlankJson, hfilter]

theorem exists_ofDraft {d : Draft} (hjson : ∀ name ∈ d.jsonColumn, Text.isBlankText name = false)
    (hfault : d.fault? = none) : ∃ s, ofDraft d = .ok s ∧ s.toDraft = d :=
  ⟨⟨d, hfault⟩, ofDraft_eq_ok_iff.mpr (withoutBlankJson_eq hjson).symm, rfl⟩

theorem ofDraft_eq_error {d : Draft}
    (hjson : ∀ name ∈ d.jsonColumn, Text.isBlankText name = false) {cause : Misconfiguration}
    (hfault : d.fault? = some cause) : ofDraft d = .error (.refused cause) := by
  have hunsound : d.withoutBlankJson.fault? = some cause := by rw [withoutBlankJson_eq hjson, hfault]
  simp only [ofDraft]
  split
  case h_1 h =>
    rw [hunsound] at h
    cases h
  case h_2 other h =>
    rw [hunsound] at h
    rw [Option.some.inj h]

variable (s : Schema)

theorem isBlankText_of_jsonColumn {d : Draft} (h : ofDraft d = .ok s) :
    ∀ name ∈ s.jsonColumn, Text.isBlankText name = false := by
  intro name hname
  rw [ofDraft_eq_ok_iff.mp h] at hname
  simpa using (Option.mem_filter_iff.mp hname).2

theorem fault?_of_jsonColumn {json : Option String} (hjson : ∀ name ∈ json, name ∈ s.jsonColumn) :
    { s.toDraft with jsonColumn := json }.fault? = none := by
  obtain ⟨hnames, hreserved, hmetadata, hdisjoint, hown⟩ := (Draft.fault?_eq_none_iff _).mp s.sound
  apply (Draft.fault?_eq_none_iff _).mpr
  exact ⟨hnames, hreserved, hmetadata, hdisjoint, fun name hname => hown name (hjson name hname)⟩

/-! ### The steps of resolving -/

theorem isTextType_eq_true_iff {dataType : Value} :
    isTextType dataType = .ok true ↔ ∃ name, dataType = .text name ∧
      Text.lowerAscii name ∈ ["text", "character varying", "character"] := by
  cases dataType <;> simp [isTextType]

theorem isVectorType_eq_true_iff {dataType : Value} :
    isVectorType dataType = .ok true ↔
      ∃ name, dataType = .text name ∧ Text.upper name = "USER-DEFINED" := by
  cases dataType <;> simp [isVectorType]

/-- A table agrees with the three roles if it has the columns and the types of two of them fit. -/
theorem roleMismatch?_eq_none_iff {columns : TableColumns} :
    s.roleMismatch? columns = .ok none ↔
      (lookupName columns s.idColumn).isSome ∧
      (∃ type, lookupName columns s.contentColumn = some (.text type) ∧
        Text.lowerAscii type ∈ ["text", "character varying", "character"]) ∧
      ∃ type, lookupName columns s.embeddingColumn = some (.text type) ∧
        Text.upper type = "USER-DEFINED" := by
  rw [roleMismatch?]
  cases lookupName columns s.idColumn with
  | none => simp
  | some idType =>
    rw [if_neg (by simp), Option.isSome_some]
    cases lookupName columns s.contentColumn with
    | none => simp
    | some contentType =>
      constructor
      · intro h
        obtain ⟨isText, htext, h⟩ := bind_eq_ok_iff.mp h
        cases isText with
        | false => cases h
        | true =>
          obtain ⟨type, rfl, htype⟩ := isTextType_eq_true_iff.mp htext
          refine ⟨rfl, ⟨type, rfl, htype⟩, ?_⟩
          cases hembedding : lookupName columns s.embeddingColumn with
          | none =>
            rw [hembedding] at h
            cases h
          | some vectorType =>
            rw [hembedding] at h
            obtain ⟨isVector, hvector, h⟩ := bind_eq_ok_iff.mp h
            cases isVector with
            | false => cases h
            | true =>
              obtain ⟨name, rfl, hname⟩ := isVectorType_eq_true_iff.mp hvector
              exact ⟨name, rfl, hname⟩
      · rintro ⟨-, ⟨type, hcontent, htype⟩, name, hembedding, hname⟩
        cases hcontent
        have htext := isTextType_eq_true_iff.mpr ⟨type, rfl, htype⟩
        have hvector := isVectorType_eq_true_iff.mpr ⟨name, rfl, hname⟩
        rw [hembedding]
        exact bind_eq_ok_iff.mpr ⟨true, htext, bind_eq_ok_iff.mpr ⟨true, hvector, rfl⟩⟩

theorem roleMismatch?_eq_none {columns : TableColumns}
    (hid : (lookupName columns s.idColumn).isSome)
    (hcontent : lookupName columns s.contentColumn = some (.text "text"))
    (hembedding : lookupName columns s.embeddingColumn = some (.text "USER-DEFINED")) :
    s.roleMismatch? columns = .ok none :=
  s.roleMismatch?_eq_none_iff.mpr
    ⟨hid, ⟨_, hcontent, by decide⟩, ⟨_, hembedding, by decide⟩⟩

/-- A column that is declared with its type keeps it, whatever the table tells. -/
theorem mapM_resolve {columns : TableColumns} (table : String) {typed : List TypedColumn}
    (hmetadata : ∀ column ∈ typed, (lookupName columns column.name).isSome) :
    (typed.map MetadataColumn.typed).mapM (fun column => column.resolve columns table) =
      .ok typed := by
  induction typed with
  | nil => rfl
  | cons column typed ih =>
    obtain ⟨dataType, hcolumn⟩ := Option.isSome_iff_exists.mp (hmetadata column List.mem_cons_self)
    have hname : lookupName columns (MetadataColumn.typed column).name = some dataType := hcolumn
    have hfirst : (MetadataColumn.typed column).resolve columns table = .ok column := by
      rw [MetadataColumn.resolve, hname]
    have hrest := ih fun c hc => hmetadata c (List.mem_cons_of_mem column hc)
    rw [List.map_cons, List.mapM_cons, hfirst, hrest]
    rfl

/-- Whether columns are declared or ignored, but not both, whether the roles fit, and what becomes of the metadata columns decides about resolving, together with the checks that any draft must pass. -/
theorem resolve_eq_ok_iff {columns : TableColumns} {ignored : Option (List String)} {r : Schema} :
    s.resolve columns ignored = .ok r ↔
      s.declaresAndIgnores ignored = false ∧ s.roleMismatch? columns = .ok none ∧
        ∃ typed, s.resolvedColumns columns (ignored.getD []) = .ok typed ∧
          ofDraft { s.toDraft with
            metadataColumns := typed.map .typed
            jsonColumn := s.presentJsonColumn columns } = .ok r := by
  rw [resolve]
  cases s.declaresAndIgnores ignored with
  | true => simp
  | false =>
    rw [if_neg Bool.false_ne_true]
    refine bind_eq_ok_iff.trans ⟨?_, ?_⟩
    · rintro ⟨mismatch, hroles, h⟩
      cases mismatch with
      | some cause => cases h
      | none => exact ⟨rfl, hroles, bind_eq_ok_iff.mp h⟩
    · rintro ⟨-, hroles, h⟩
      exact ⟨none, hroles, bind_eq_ok_iff.mpr h⟩

theorem exists_resolve {typed : List TypedColumn} (htyped : s.metadataColumns = typed.map .typed)
    (hjson : ∀ name ∈ s.jsonColumn, Text.isBlankText name = false) {columns : TableColumns}
    (hid : (lookupName columns s.idColumn).isSome)
    (hcontent : lookupName columns s.contentColumn = some (.text "text"))
    (hembedding : lookupName columns s.embeddingColumn = some (.text "USER-DEFINED"))
    (hmetadata : ∀ column ∈ typed, (lookupName columns column.name).isSome) :
    ∃ resolved, s.resolve columns none = .ok resolved ∧
      resolved.toDraft = { s.toDraft with jsonColumn := s.presentJsonColumn columns } := by
  have hpresent : ∀ name ∈ s.presentJsonColumn columns, name ∈ s.jsonColumn :=
    fun name hname => (Option.mem_filter_iff.mp hname).1
  obtain ⟨resolved, hok, hdraft⟩ := exists_ofDraft (fun name hname => hjson name (hpresent name hname))
    (s.fault?_of_jsonColumn hpresent)
  have hignored : s.declaresAndIgnores none = false := by simp [declaresAndIgnores]
  have hcolumns : s.resolvedColumns columns [] = .ok typed := by
    rw [resolvedColumns, htyped, mapM_resolve s.qualifiedTable hmetadata]
    rfl
  refine ⟨resolved, s.resolve_eq_ok_iff.mpr
    ⟨hignored, s.roleMismatch?_eq_none hid hcontent hembedding, typed, hcolumns, ?_⟩, hdraft⟩
  -- The declared columns take the place of themselves.
  rw [← htyped]
  exact hok

/-! ### Resolved schemas -/

/-- A schema that a schema becomes when it is resolved against a table, with its metadata columns. -/
structure ResolvesTo (s : Schema) (columns : TableColumns) (ignored : List String) (r : Schema)
    (typed : List TypedColumn) : Prop where
  draft : r.toDraft = { s.toDraft with
    metadataColumns := typed.map .typed
    jsonColumn := s.jsonColumn.filter fun name => name ∈ columns.map Prod.fst }
  present : ∀ name ∈ r.selectColumns, name ∈ columns.map Prod.fst
  distinct : r.selectColumns.Nodup
  content : ∃ type, lookupName columns r.contentColumn = some (.text type) ∧
    Text.lowerAscii type ∈ ["text", "character varying", "character"]
  embedding : ∃ type, lookupName columns r.embeddingColumn = some (.text type) ∧
    Text.upper type = "USER-DEFINED"
  declared : ignored = [] →
    List.Forall₂ (MetadataColumn.IsFilledBy columns) s.metadataColumns typed
  discovered : ignored ≠ [] → s.metadataColumns = [] ∧
    typed.map TypedColumn.entry = columns.filter (fun column =>
      column.1 ∉ ignored ++ s.reserved ++ s.jsonColumn.toList) ∧
    ∀ column ∈ typed, column.nullable = true
  again : r.resolve columns none = .ok r

variable {s}

theorem presentJsonColumn_eq_filter (columns : TableColumns) :
    s.presentJsonColumn columns = s.jsonColumn.filter fun name => name ∈ columns.map Prod.fst := by
  rw [presentJsonColumn]
  congr 1
  funext name
  rw [Bool.eq_iff_iff, isSome_lookupName_iff, decide_eq_true_iff]

theorem mem_presentJsonColumn_iff {columns : TableColumns} {name : String} :
    name ∈ s.presentJsonColumn columns ↔ name ∈ s.jsonColumn ∧ name ∈ columns.map Prod.fst := by
  rw [presentJsonColumn_eq_filter, Option.mem_filter_iff, decide_eq_true_iff]

theorem entries_of_discover {columns : TableColumns} {skipped : List String}
    {typed : List TypedColumn} (h : discover columns skipped = .ok typed) :
    typed.map TypedColumn.entry = columns.filter (fun column => !skipped.contains column.1) ∧
      ∀ column ∈ typed, column.nullable = true := by
  constructor
  · have hentries := map_eq_map_of_mapM (p := id) (q := TypedColumn.entry)
      (fun _ _ hcolumn => (TypedColumn.entry_of_ofTable hcolumn).1.symm) h
    rw [← hentries, List.map_id]
  · intro column hcolumn
    obtain ⟨_, -, hfound⟩ := exists_mem_of_mem_mapM h hcolumn
    exact (TypedColumn.entry_of_ofTable hfound).2

theorem resolvedColumns_nil {columns : TableColumns} :
    s.resolvedColumns columns [] =
      s.metadataColumns.mapM fun column => column.resolve columns s.qualifiedTable :=
  bind_pure _

theorem declaresAndIgnores_eq_false_iff {ignored : Option (List String)} :
    s.declaresAndIgnores ignored = false ↔ s.metadataColumns = [] ∨ ignored.getD [] = [] := by
  simp [declaresAndIgnores, or_iff_not_imp_left]

theorem resolvedColumns_of_ne_nil {columns : TableColumns} {ignored : List String}
    (hnone : s.metadataColumns = []) (hsome : ignored ≠ []) :
    s.resolvedColumns columns ignored =
      discover columns (ignored ++ s.reserved ++ (s.presentJsonColumn columns).toList) := by
  rw [resolvedColumns, hnone]
  exact if_neg (by simpa using hsome)

theorem mem_of_resolvedColumns {columns : TableColumns} {ignored : List String}
    {typed : List TypedColumn} (h : s.resolvedColumns columns ignored = .ok typed)
    {column : TypedColumn} (hcolumn : column ∈ typed) : column.name ∈ columns.map Prod.fst := by
  obtain ⟨declared, hdeclared, h⟩ := bind_eq_ok_iff.mp h
  split at h
  · cases h
    obtain ⟨_, -, hfilled⟩ := exists_mem_of_mem_mapM hdeclared hcolumn
    exact (MetadataColumn.isFilledBy_of_resolve hfilled).mem
  · have hentry : column.entry ∈ typed.map TypedColumn.entry := List.mem_map_of_mem hcolumn
    rw [(entries_of_discover h).1] at hentry
    exact List.mem_map.mpr ⟨column.entry, List.mem_of_mem_filter hentry, rfl⟩

/-- With columns to ignore, what is skipped in a table is what they name and what has another part. -/
theorem filter_skipped_eq (columns : TableColumns) (ignored : List String) :
    (columns.filter fun column => !(ignored ++ s.reserved ++
      (s.presentJsonColumn columns).toList).contains column.1) =
      columns.filter fun column => column.1 ∉ ignored ++ s.reserved ++ s.jsonColumn.toList := by
  apply List.filter_congr
  intro column hcolumn
  have hname : column.1 ∈ columns.map Prod.fst := List.mem_map_of_mem hcolumn
  have hjson : column.1 ∈ (s.presentJsonColumn columns).toList ↔ column.1 ∈ s.jsonColumn.toList :=
    Option.mem_toList.trans ((mem_presentJsonColumn_iff.trans (and_iff_left hname)).trans
      Option.mem_toList.symm)
  rw [Bool.eq_iff_iff, Bool.not_eq_true', ← Bool.not_eq_true, List.contains_iff_mem,
    decide_eq_true_iff, List.mem_append, hjson, List.mem_append (s := ignored ++ s.reserved)]

/-- Nothing is left open in a schema that names its columns with their types and has no JSON column that the table lacks. -/
theorem resolve_eq_self {r : Schema} {columns : TableColumns} {typed : List TypedColumn}
    (htyped : r.metadataColumns = typed.map .typed)
    (hjson : ∀ name ∈ r.jsonColumn, Text.isBlankText name = false)
    (hroles : r.roleMismatch? columns = .ok none)
    (hpresent : ∀ name ∈ r.selectColumns, name ∈ columns.map Prod.fst) :
    r.resolve columns none = .ok r := by
  have hmetadata : ∀ column ∈ typed, (lookupName columns column.name).isSome := by
    intro column hcolumn
    have hname : column.name ∈ r.metadataNames := by
      rw [Draft.metadataNames, htyped, List.map_map]
      exact List.mem_map_of_mem hcolumn
    exact isSome_lookupName_iff.mpr (hpresent _ (by simp [selectColumns, hname]))
  have hkept : r.presentJsonColumn columns = r.jsonColumn := by
    rw [presentJsonColumn_eq_filter]
    cases hname : r.jsonColumn with
    | none => rfl
    | some name =>
      have hcolumn : name ∈ columns.map Prod.fst := hpresent name (by simp [selectColumns, hname])
      rw [Option.filter_some, if_pos (decide_eq_true hcolumn)]
  refine r.resolve_eq_ok_iff.mpr ⟨by simp [declaresAndIgnores], hroles, typed, ?_, ?_⟩
  · show r.resolvedColumns columns [] = _
    rw [resolvedColumns_nil, htyped, mapM_resolve r.qualifiedTable hmetadata]
  · rw [ofDraft_eq_ok_iff, ← htyped, hkept]
    exact (withoutBlankJson_eq hjson).symm

theorem exists_resolvesTo {columns : TableColumns} {ignored : Option (List String)} {r : Schema}
    (hjson : ∀ name ∈ s.jsonColumn, Text.isBlankText name = false)
    (h : s.resolve columns ignored = .ok r) :
    ∃ typed, s.ResolvesTo columns (ignored.getD []) r typed := by
  obtain ⟨hboth, hroles, typed, htyped, hdraft⟩ := s.resolve_eq_ok_iff.mp h
  obtain ⟨hid, hcontent, hembedding⟩ := s.roleMismatch?_eq_none_iff.mp hroles
  have hblank : ∀ name ∈ s.presentJsonColumn columns, Text.isBlankText name = false :=
    fun name hname => hjson name (mem_presentJsonColumn_iff.mp hname).1
  have hr : r.toDraft = { s.toDraft with
      metadataColumns := typed.map .typed
      jsonColumn := s.presentJsonColumn columns } :=
    (ofDraft_eq_ok_iff.mp hdraft).trans (withoutBlankJson_eq hblank)
  have hpresent : ∀ name ∈ r.selectColumns, name ∈ columns.map Prod.fst := by
    have hreserved : ∀ name ∈ s.reserved, name ∈ columns.map Prod.fst := by
      obtain ⟨_, hcontent, -⟩ := hcontent
      obtain ⟨_, hembedding, -⟩ := hembedding
      simp only [Draft.reserved, List.forall_mem_cons, ← isSome_lookupName_iff, hid, hcontent,
        hembedding, Option.isSome_some, List.not_mem_nil, false_imp_iff, implies_true, and_self]
    intro name hname
    rw [r.perm_selectColumns.mem_iff, hr, List.mem_append, List.mem_append] at hname
    rcases hname with (hname | hname) | hname
    · exact hreserved name hname
    · simp only [Draft.metadataNames, List.map_map, List.mem_map] at hname
      obtain ⟨column, hcolumn, rfl⟩ := hname
      exact mem_of_resolvedColumns htyped hcolumn
    · exact (mem_presentJsonColumn_iff.mp (Option.mem_toList.mp hname)).2
  refine ⟨typed, ?_⟩
  exact
    { draft := by rw [hr, presentJsonColumn_eq_filter]
      present := hpresent
      distinct := nodup_selectColumns
      content := by rw [hr]; exact hcontent
      embedding := by rw [hr]; exact hembedding
      declared := fun hnone => by
        rw [hnone, resolvedColumns_nil] at htyped
        exact (forall₂_of_mapM htyped).imp fun _ _ => MetadataColumn.isFilledBy_of_resolve
      discovered := fun hsome => by
        have hnone := (declaresAndIgnores_eq_false_iff.mp hboth).resolve_right hsome
        rw [resolvedColumns_of_ne_nil hnone hsome] at htyped
        obtain ⟨hentries, hnullable⟩ := entries_of_discover htyped
        exact ⟨hnone, hentries.trans (s.filter_skipped_eq columns _), hnullable⟩
      again := by
        refine resolve_eq_self (by rw [hr]) (by rw [hr]; exact hblank) ?_ hpresent
        rw [roleMismatch?_eq_none_iff, hr]
        exact ⟨hid, hcontent, hembedding⟩ }

end Schema

end VectorTable
