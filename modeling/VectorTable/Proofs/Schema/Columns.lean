import VectorTable.Schema.Basic

/-!
# Distinct columns

A draft has nothing wrong with it exactly when its names are not blank and its columns are all
different from one another. So the columns of a schema that an insertion fills are distinct, and
each of them can be found by its name.
-/

namespace VectorTable

theorem Draft.fault?_eq_none_iff (d : Draft) :
    d.fault? = none ↔
      (∀ required ∈ d.requiredNames, Text.isBlankText required.2 = false) ∧ d.reserved.Nodup ∧
        d.metadataNames.Nodup ∧ (∀ name ∈ d.metadataNames, name ∉ d.reserved) ∧
        ∀ name ∈ d.jsonColumn, name ∉ d.reserved ∧ name ∉ d.metadataNames := by
  rw [fault?]
  cases hblank : d.requiredNames.find? fun required => Text.isBlankText required.2 with
  | some required =>
    have hfound := List.find?_some hblank
    constructor
    · intro h
      cases h
    · intro h
      rw [h.1 required (List.mem_of_find?_eq_some hblank)] at hfound
      cases hfound
  | none =>
    have hnames : ∀ required ∈ d.requiredNames, Text.isBlankText required.2 = false := by
      simpa using hblank
    by_cases hreserved : d.reserved.Nodup
    case neg => simp [hreserved]
    by_cases hmetadata : d.metadataNames.Nodup
    case neg => simp [hreserved, hmetadata]
    by_cases hshared : d.metadataNames.any d.reserved.contains = true
    case pos =>
      obtain ⟨name, hname, htaken⟩ := List.any_eq_true.mp hshared
      simp only [hreserved, hmetadata, hshared, not_true_eq_false, if_false, if_true]
      constructor
      · intro h
        cases h
      · intro h
        exact absurd (List.contains_iff_mem.mp htaken) (h.2.2.2.1 name hname)
    have hdisjoint : ∀ name ∈ d.metadataNames, name ∉ d.reserved := by
      intro name hname htaken
      exact hshared (List.any_eq_true.mpr ⟨name, hname, List.contains_iff_mem.mpr htaken⟩)
    simp only [if_neg (not_not_intro hreserved), if_neg (not_not_intro hmetadata), if_neg hshared]
    cases d.jsonColumn with
    | none => exact ⟨fun _ => ⟨hnames, hreserved, hmetadata, hdisjoint, by simp⟩, fun _ => rfl⟩
    | some json =>
      simp only [Bool.or_eq_true, List.contains_iff_mem, ite_eq_right_iff, reduceCtorEq, imp_false,
        not_or, Option.mem_def, Option.some.injEq, forall_eq']
      exact ⟨fun h => ⟨hnames, hreserved, hmetadata, hdisjoint, h⟩, fun h => h.2.2.2.2⟩

namespace Schema

variable (s : Schema)

theorem nodup_reserved : s.reserved.Nodup := ((Draft.fault?_eq_none_iff _).mp s.sound).2.1

theorem nodup_metadataNames : s.metadataNames.Nodup :=
  ((Draft.fault?_eq_none_iff _).mp s.sound).2.2.1

theorem notMem_reserved_of_metadata {name : String} (hname : name ∈ s.metadataNames) :
    name ∉ s.reserved :=
  ((Draft.fault?_eq_none_iff _).mp s.sound).2.2.2.1 name hname

theorem notMem_of_jsonColumn {name : String} (hname : s.jsonColumn = some name) :
    name ∉ s.reserved ∧ name ∉ s.metadataNames :=
  ((Draft.fault?_eq_none_iff _).mp s.sound).2.2.2.2 name hname

theorem nodup_insertColumns : s.insertColumns.Nodup := by
  have hthree : [s.idColumn, s.embeddingColumn, s.contentColumn].Perm s.reserved :=
    .cons _ (.swap _ _ _)
  have hmetadata : ([s.idColumn, s.embeddingColumn, s.contentColumn] ++ s.metadataNames).Nodup := by
    refine List.nodup_append.mpr
      ⟨hthree.nodup_iff.mpr s.nodup_reserved, s.nodup_metadataNames, fun name hthis other hother => ?_⟩
    rintro rfl
    exact s.notMem_reserved_of_metadata hother (hthree.mem_iff.mp hthis)
  refine List.nodup_append.mpr ⟨hmetadata, ?_, fun name hname json hjson => ?_⟩
  · cases s.jsonColumn <;> simp
  · obtain ⟨hreserved, hnames⟩ := s.notMem_of_jsonColumn (Option.mem_toList.mp hjson)
    rintro rfl
    exact (List.mem_append.mp hname).elim (fun h => hreserved (hthree.mem_iff.mp h)) hnames

theorem perm_insertColumns :
    s.insertColumns.Perm (s.reserved ++ s.metadataNames ++ s.jsonColumn.toList) :=
  ((List.Perm.cons _ (.swap _ _ _)).append_right _).append_right _

theorem perm_selectColumns :
    s.selectColumns.Perm (s.reserved ++ s.metadataNames ++ s.jsonColumn.toList) :=
  List.perm_append_comm.append_right _

variable {s} in
theorem nodup_selectColumns : s.selectColumns.Nodup :=
  s.perm_selectColumns.nodup_iff.mpr (s.perm_insertColumns.nodup_iff.mp s.nodup_insertColumns)

end Schema

end VectorTable
