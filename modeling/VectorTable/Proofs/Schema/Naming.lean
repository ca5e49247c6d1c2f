import VectorTable.Proofs.Schema.Resolved

/-!
# Names that make a schema

Five checks on names decide together whether a draft becomes a schema: the names of the table and of the three roles are not blank, and all columns are different from one another, a JSON column included unless its name is blank. So the columns that an insertion fills and those that a selection reads are the same, each of them once, for every schema that is made from a draft and for every schema that comes of resolving one.
-/

namespace VectorTable

/-- The names of a draft of which a schema can be made. A JSON column with a blank name does not count. -/
structure Draft.IsWellNamed (d : Draft) : Prop where
  tableNotBlank : Text.isBlankText d.table = false
  schemaNotBlank : Text.isBlankText d.schema = false
  idNotBlank : Text.isBlankText d.idColumn = false
  contentNotBlank : Text.isBlankText d.contentColumn = false
  embeddingNotBlank : Text.isBlankText d.embeddingColumn = false
  rolesDiffer : d.idColumn ≠ d.contentColumn ∧ d.idColumn ≠ d.embeddingColumn ∧
    d.contentColumn ≠ d.embeddingColumn
  metadataDiffer : (d.metadataColumns.map MetadataColumn.name).Nodup
  metadataApart : ∀ column ∈ d.metadataColumns, column.name ≠ d.idColumn ∧
    column.name ≠ d.contentColumn ∧ column.name ≠ d.embeddingColumn
  jsonApart : ∀ json, d.jsonColumn = some json → Text.isBlankText json = false →
    json ≠ d.idColumn ∧ json ≠ d.contentColumn ∧ json ≠ d.embeddingColumn ∧
      ∀ column ∈ d.metadataColumns, json ≠ column.name

/-- The columns of a schema stand in both of its lists, each of them once. -/
structure Schema.ListsColumnsOnce (s : Schema) : Prop where
  insert : s.insertColumns.Nodup
  select : s.selectColumns.Nodup
  perm : s.insertColumns.Perm s.selectColumns

namespace Draft

variable {d : Draft}

theorem nodup_reserved_iff : d.reserved.Nodup ↔
    d.idColumn ≠ d.contentColumn ∧ d.idColumn ≠ d.embeddingColumn ∧
      d.contentColumn ≠ d.embeddingColumn := by
  simp [reserved, and_assoc]

theorem notMem_reserved_iff {name : String} : name ∉ d.reserved ↔
    name ≠ d.idColumn ∧ name ≠ d.contentColumn ∧ name ≠ d.embeddingColumn := by
  simp [reserved]

theorem forall_mem_requiredNames_iff :
    (∀ required ∈ d.requiredNames, Text.isBlankText required.2 = false) ↔
      Text.isBlankText d.table = false ∧ Text.isBlankText d.schema = false ∧
        Text.isBlankText d.idColumn = false ∧ Text.isBlankText d.contentColumn = false ∧
        Text.isBlankText d.embeddingColumn = false := by
  simp [requiredNames]

theorem mem_jsonColumn_withoutBlankJson_iff {json : String} :
    json ∈ d.withoutBlankJson.jsonColumn ↔
      d.jsonColumn = some json ∧ Text.isBlankText json = false := by
  rw [withoutBlankJson, Option.mem_filter_iff, Bool.not_eq_true']
  rfl

theorem isWellNamed_iff : d.IsWellNamed ↔ d.withoutBlankJson.fault? = none := by
  rw [fault?_eq_none_iff]
  constructor
  · intro h
    refine ⟨forall_mem_requiredNames_iff.mpr ⟨h.tableNotBlank, h.schemaNotBlank, h.idNotBlank,
      h.contentNotBlank, h.embeddingNotBlank⟩, nodup_reserved_iff.mpr h.rolesDiffer,
      h.metadataDiffer, ?_, ?_⟩
    · intro name hname
      obtain ⟨column, hcolumn, rfl⟩ := List.mem_map.mp hname
      exact notMem_reserved_iff.mpr (h.metadataApart column hcolumn)
    · intro json hjson
      obtain ⟨hjson, hblank⟩ := mem_jsonColumn_withoutBlankJson_iff.mp hjson
      obtain ⟨hid, hcontent, hembedding, hmetadata⟩ := h.jsonApart json hjson hblank
      refine ⟨notMem_reserved_iff.mpr ⟨hid, hcontent, hembedding⟩, fun hname => ?_⟩
      obtain ⟨column, hcolumn, hsame⟩ := List.mem_map.mp hname
      exact hmetadata column hcolumn hsame.symm
  · rintro ⟨hrequired, hreserved, hmetadata, hapart, hjson⟩
    obtain ⟨htable, hschema, hid, hcontent, hembedding⟩ := forall_mem_requiredNames_iff.mp hrequired
    refine ⟨htable, hschema, hid, hcontent, hembedding, nodup_reserved_iff.mp hreserved, hmetadata,
      fun column hcolumn => ?_, fun json hname hblank => ?_⟩
    · exact notMem_reserved_iff.mp (hapart _ (List.mem_map_of_mem hcolumn))
    · obtain ⟨hroles, hothers⟩ :=
        hjson json (mem_jsonColumn_withoutBlankJson_iff.mpr ⟨hname, hblank⟩)
      obtain ⟨hid, hcontent, hembedding⟩ := notMem_reserved_iff.mp hroles
      refine ⟨hid, hcontent, hembedding, fun column hcolumn hsame => hothers ?_⟩
      rw [hsame]
      exact List.mem_map_of_mem hcolumn

end Draft

namespace Schema

theorem exists_ofDraft_iff {d : Draft} : (∃ s, ofDraft d = .ok s) ↔ d.IsWellNamed := by
  rw [Draft.isWellNamed_iff]
  constructor
  · rintro ⟨s, hs⟩
    rw [← ofDraft_eq_ok_iff.mp hs]
    exact s.sound
  · intro hsound
    exact ⟨⟨d.withoutBlankJson, hsound⟩, ofDraft_eq_ok_iff.mpr rfl⟩

theorem listsColumnsOnce (s : Schema) : s.ListsColumnsOnce where
  insert := s.nodup_insertColumns
  select := s.nodup_selectColumns
  perm := s.perm_insertColumns.trans s.perm_selectColumns.symm

/-- A draft becomes a schema exactly if its names allow it. The schema has the names of the draft, but for a JSON column with a blank name; its lists of columns are the same up to their order and name no column twice, and this stays so when the schema is resolved against any table. -/
theorem ofDraft_listsColumnsOnce (d : Draft) :
    ((∃ s, ofDraft d = .ok s) ↔ d.IsWellNamed) ∧
    ∀ s, ofDraft d = .ok s →
      s.toDraft = d.withoutBlankJson ∧ s.ListsColumnsOnce ∧
      ∀ columns ignored r, s.resolve columns ignored = .ok r → r.ListsColumnsOnce :=
  ⟨exists_ofDraft_iff, fun s hs => ⟨ofDraft_eq_ok_iff.mp hs, s.listsColumnsOnce,
    fun _ _ r _ => r.listsColumnsOnce⟩⟩

/-- A blank JSON column stands in no list, and a column that is declared by name alone stands where it did once its type is known. -/
theorem ofDraft_listsColumnsOnce_blankJson :
    let source : TypedColumn := ⟨"source", "text", false, by decide, by decide⟩
    let d : Draft := { Draft.ofTable "t" with
      metadataColumns := [.named "page", .typed source], jsonColumn := some " " }
    let columns : TableColumns := [("langchain_id", .text "uuid"), ("content", .text "text"),
      ("embedding", .text "USER-DEFINED"), ("source", .text "text"), ("page", .text "integer")]
    let s : Schema := ⟨{ d with jsonColumn := none }, by decide⟩
    ∃ r, ofDraft d = .ok s ∧ d.IsWellNamed ∧ s.ListsColumnsOnce ∧
      s.resolve columns none = .ok r ∧ r.ListsColumnsOnce ∧
      r.selectColumns = ["page", "source", "langchain_id", "content", "embedding"] := by
  intro source d columns s
  have hs : ofDraft d = .ok s := ofDraft_eq_ok_iff.mpr rfl
  have hresolved : (s.resolve columns none).toOption.map (fun r => r.selectColumns) =
      some ["page", "source", "langchain_id", "content", "embedding"] := by decide
  obtain ⟨-, hlists, hlater⟩ := (ofDraft_listsColumnsOnce d).2 s hs
  cases hr : s.resolve columns none with
  | error failure =>
    rw [hr] at hresolved
    cases hresolved
  | ok r =>
    rw [hr] at hresolved
    exact ⟨r, hs, (ofDraft_listsColumnsOnce d).1.mp ⟨s, hs⟩, hlists, rfl,
      hlater columns none r hr, Option.some.inj hresolved⟩

end Schema

end VectorTable
