import VectorTable.Proofs.Schema.Resolved

/-!
# Columns to ignore

With columns to ignore, the metadata columns are discovered in the table: every column that has no other part and is not ignored. So what is discovered depends on the ignored columns in one way only, that more of them leave out more. An empty list is an exception: it is taken for no list at all, and nothing is discovered, although there is nothing to leave out.
-/

namespace VectorTable

theorem Draft.fault?_of_sublist {d : Draft} {metadata : List MetadataColumn}
    (h : d.fault? = none) (hmetadata : metadata.Sublist d.metadataColumns) :
    { d with metadataColumns := metadata }.fault? = none := by
  obtain ⟨hnames, hreserved, hnodup, hdisjoint, hjson⟩ := d.fault?_eq_none_iff.mp h
  have hsub : (metadata.map MetadataColumn.name).Sublist d.metadataNames :=
    hmetadata.map MetadataColumn.name
  refine (Draft.fault?_eq_none_iff _).mpr ⟨hnames, hreserved, hnodup.sublist hsub, ?_, ?_⟩
  · exact fun name hname => hdisjoint name (hsub.subset hname)
  · exact fun name hname => ⟨(hjson name hname).1, fun h => (hjson name hname).2 (hsub.subset h)⟩

namespace Schema

variable {s : Schema} {columns : TableColumns} {I J : List String}

theorem discover_of_subset {more : List String} {typed : List TypedColumn} (hsub : I ⊆ J)
    (h : discover columns (I ++ more) = .ok typed) :
    discover columns (J ++ more) = .ok (typed.filter fun column => column.name ∉ J) := by
  have hskipped : (columns.filter fun column => !(J ++ more).contains column.1) =
      (columns.filter fun column => !(I ++ more).contains column.1).filter fun column =>
        decide (column.1 ∉ J) := by
    rw [List.filter_filter]
    apply List.filter_congr
    intro column _
    have hmem : column.1 ∈ I → column.1 ∈ J := fun hname => hsub hname
    by_cases hJ : column.1 ∈ J
    · simp [hJ]
    · simp [hJ, mt hmem hJ]
  rw [discover, hskipped]
  apply mapM_filter ?_ h
  intro column found hfound
  rw [← congrArg Prod.fst (TypedColumn.entry_of_ofTable hfound).1]
  rfl

theorem exists_resolve_of_subset {r : Schema} (hnone : s.metadataColumns = []) (hI : I ≠ [])
    (hsub : I ⊆ J) (h : s.resolve columns (some I) = .ok r) :
    ∃ t, s.resolve columns (some J) = .ok t ∧
      t.metadataColumns = r.metadataColumns.filter fun column => column.name ∉ J := by
  have hJ : J ≠ [] := by
    intro hempty
    rw [hempty] at hsub
    exact hI (List.subset_nil.mp hsub)
  obtain ⟨-, hroles, typed, htyped, hdraft⟩ := s.resolve_eq_ok_iff.mp h
  have hfound : discover columns (I ++ (s.reserved ++ (s.presentJsonColumn columns).toList)) =
      .ok typed := by
    rw [← List.append_assoc, ← resolvedColumns_of_ne_nil hnone hI]
    exact htyped
  have hkept := discover_of_subset hsub hfound
  rw [← List.append_assoc, ← resolvedColumns_of_ne_nil hnone hJ] at hkept
  have hr := ofDraft_eq_ok_iff.mp hdraft
  have hsound : Draft.fault? { r.toDraft with
      metadataColumns := (typed.filter fun column => column.name ∉ J).map .typed } = none := by
    apply Draft.fault?_of_sublist r.sound
    rw [hr]
    exact List.filter_sublist.map MetadataColumn.typed
  refine ⟨⟨_, hsound⟩, s.resolve_eq_ok_iff.mpr
    ⟨declaresAndIgnores_eq_false_iff.mpr (.inl hnone), hroles, _, hkept, ?_⟩, ?_⟩
  · rw [ofDraft_eq_ok_iff]
    exact congrArg (fun d : Draft => { d with
      metadataColumns := (typed.filter fun column : TypedColumn => column.name ∉ J).map .typed }) hr
  · have hmetadata : r.metadataColumns = typed.map .typed := congrArg Draft.metadataColumns hr
    rw [hmetadata, List.filter_map]
    rfl

theorem entries_of_resolve {r : Schema} (hnone : s.metadataColumns = []) (hI : I ≠ [])
    (hforeign : ∀ name ∈ I, name ∉ columns.map Prod.fst)
    (h : s.resolve columns (some I) = .ok r) :
    ∃ typed : List TypedColumn, r.metadataColumns = typed.map .typed ∧
      typed.map TypedColumn.entry = columns.filter fun column =>
        column.1 ∉ s.reserved ++ s.jsonColumn.toList := by
  obtain ⟨-, -, typed, htyped, hdraft⟩ := s.resolve_eq_ok_iff.mp h
  have hmetadata := congrArg Draft.metadataColumns (ofDraft_eq_ok_iff.mp hdraft)
  have hfound : discover columns (I ++ s.reserved ++ (s.presentJsonColumn columns).toList) =
      .ok typed := by
    rw [← resolvedColumns_of_ne_nil hnone hI]
    exact htyped
  refine ⟨typed, hmetadata, ?_⟩
  rw [(entries_of_discover hfound).1, filter_skipped_eq]
  apply List.filter_congr
  intro column hcolumn
  have hnot : column.1 ∉ I := fun hname => hforeign _ hname (List.mem_map_of_mem hcolumn)
  simp [hnot]

theorem metadataColumns_of_resolve_none {r : Schema} (hnone : s.metadataColumns = [])
    (h : s.resolve columns none = .ok r) : r.metadataColumns = [] := by
  obtain ⟨-, -, typed, htyped, hdraft⟩ := s.resolve_eq_ok_iff.mp h
  have hempty : s.resolvedColumns columns [] = .ok [] := by
    rw [resolvedColumns_nil, hnone]
    rfl
  cases hempty.symm.trans htyped
  exact congrArg Draft.metadataColumns (ofDraft_eq_ok_iff.mp hdraft)

/-- Ignoring more columns leaves out just those from what is discovered, and ignoring none of the table leaves out nothing, as long as there is something to ignore. An empty list of columns to ignore makes no difference from none: nothing is discovered. -/
theorem discovered_of_subset (hnone : s.metadataColumns = []) (columns : TableColumns) :
    (∀ I J r, I ≠ [] → I ⊆ J → s.resolve columns (some I) = .ok r →
      ∃ t, s.resolve columns (some J) = .ok t ∧
        t.metadataColumns = r.metadataColumns.filter fun column => column.name ∉ J) ∧
    (∀ I r, I ≠ [] → (∀ name ∈ I, name ∉ columns.map Prod.fst) →
      s.resolve columns (some I) = .ok r →
      ∃ typed : List TypedColumn, r.metadataColumns = typed.map .typed ∧
        typed.map TypedColumn.entry = columns.filter fun column =>
          column.1 ∉ s.reserved ++ s.jsonColumn.toList) ∧
    s.resolve columns (some []) = s.resolve columns none ∧
    ∀ r, s.resolve columns (some []) = .ok r → r.metadataColumns = [] :=
  ⟨fun _ _ _ hI hsub h => exists_resolve_of_subset hnone hI hsub h,
    fun _ _ hI hforeign h => entries_of_resolve hnone hI hforeign h, rfl,
    fun _ h => metadataColumns_of_resolve_none hnone h⟩

/-- A table with two columns besides those that have a part. -/
theorem discovered_of_subset_pages :
    let s : Schema := ⟨Draft.ofTable "t", by decide⟩
    let columns : TableColumns := [("langchain_id", .text "uuid"), ("page", .text "integer"),
      ("content", .text "text"), ("embedding", .text "USER-DEFINED"), ("source", .text "text")]
    let page : TypedColumn := ⟨"page", "integer", true, by decide, by decide⟩
    let source : TypedColumn := ⟨"source", "text", true, by decide, by decide⟩
    ∃ r t, s.metadataColumns = [] ∧ ["lang"] ⊆ ["page", "lang"] ∧
      s.resolve columns (some ["lang"]) = .ok r ∧
      r.metadataColumns = [.typed page, .typed source] ∧
      s.resolve columns (some ["page", "lang"]) = .ok t ∧ t.metadataColumns = [.typed source] := by
  intro s columns page source
  have hsub : ["lang"] ⊆ ["page", "lang"] := by decide
  have hfound : (s.resolve columns (some ["lang"])).toOption.map (fun r => r.metadataColumns) =
      some [.typed page, .typed source] := by decide
  cases hr : s.resolve columns (some ["lang"]) with
  | error failure =>
    rw [hr] at hfound
    cases hfound
  | ok r =>
    rw [hr] at hfound
    have hr' := Option.some.inj hfound
    obtain ⟨hfewer, -⟩ := discovered_of_subset (s := s) rfl columns
    obtain ⟨t, ht, hmetadata⟩ := hfewer _ _ r (by decide) hsub hr
    refine ⟨r, t, rfl, hsub, rfl, hr', ht, ?_⟩
    rw [hmetadata]
    exact congrArg _ hr'

/-- With an empty list to ignore less is discovered in the same table than with a longer list. -/
theorem not_discovered_of_subset_nil :
    let s : Schema := ⟨Draft.ofTable "t", by decide⟩
    let columns : TableColumns := [("langchain_id", .text "uuid"), ("page", .text "integer"),
      ("content", .text "text"), ("embedding", .text "USER-DEFINED"), ("source", .text "text")]
    ∃ r t, s.metadataColumns = [] ∧ s.resolve columns (some []) = .ok r ∧
      s.resolve columns (some ["page"]) = .ok t ∧
      t.metadataNames = ["source"] ∧ r.metadataColumns = [] ∧
      t.metadataColumns ≠ r.metadataColumns.filter fun column => column.name ∉ ["page"] := by
  intro s columns
  have hfound : (s.resolve columns (some ["page"])).toOption.map (fun t => t.metadataNames) =
      some ["source"] := by decide
  have hempty : (s.resolve columns (some [])).toOption.map (fun r => r.metadataColumns) =
      some [] := by decide
  cases hr : s.resolve columns (some []) with
  | error failure =>
    rw [hr] at hempty
    cases hempty
  | ok r =>
    cases ht : s.resolve columns (some ["page"]) with
    | error failure =>
      rw [ht] at hfound
      cases hfound
    | ok t =>
      rw [hr] at hempty
      rw [ht] at hfound
      have hnone : r.metadataColumns = [] := Option.some.inj hempty
      have hsource : t.metadataNames = ["source"] := Option.some.inj hfound
      refine ⟨r, t, rfl, rfl, rfl, hsource, hnone, fun heq => ?_⟩
      rw [Draft.metadataNames, heq, hnone] at hsource
      cases hsource

end Schema

end VectorTable
