import VectorTable.Proofs.Filter.Tokens
import VectorTable.Proofs.Schema.Columns
import VectorTable.Proofs.Statement.Shape

/-!
# Statements from their molds

Every statement is the mold of its shape with the names of the roles filled in. So its tokens are those of the mold, with one token for each name, and neither the values nor the characters of the names have a part in anything else.
-/

namespace VectorTable

open Sql

/-! ### Filling molds -/

theorem map_fill_separatedMolds (names : Role → String) (separator : String)
    (groups : List (List Mold)) :
    (separatedMolds separator groups).map (Mold.fill names) =
      separated separator (groups.map (List.map (Mold.fill names))) := by
  induction groups with
  | nil => rfl
  | cons group groups ih =>
    cases groups with
    | nil => simp [separatedMolds, separated]
    | cons next groups =>
      simp only [separatedMolds, separated, List.intercalate_cons_cons, List.map_cons,
        List.map_append] at ih ⊢
      rw [ih]
      rfl

theorem map_fill_slotMolds (names : Role → String) (start count : Nat) :
    (slotMolds start count).map (Mold.fill names) = slotsFrom start count := by
  induction count generalizing start with
  | zero => rfl
  | succ count ih =>
    have hrest := ih (start + 1)
    rw [slotMolds, List.range'_succ, List.map_cons, List.map_cons, slotsFrom]
    exact congrArg (_ :: ·) hrest

theorem map_fill_slotGroups (names : Role → String) (start count : Nat) :
    ((slotMolds start count).map fun slot => [slot]).map (List.map (Mold.fill names)) =
      (slotsFrom start count).map fun slot => [slot] := by
  rw [← map_fill_slotMolds names, List.map_map, List.map_map]
  rfl

theorem map_fill_slotList (names : Role → String) (start count : Nat) :
    (separatedMolds ", " ((slotMolds start count).map fun slot => [slot])).map (Mold.fill names) =
      separated ", " ((slotsFrom start count).map fun slot => [slot]) := by
  rw [map_fill_separatedMolds, map_fill_slotGroups]

theorem map_fill_roleMolds (names : Role → String) (roles : List Role) :
    (StatementShape.roleMolds roles).map (Mold.fill names) =
      Schema.nameList (roles.map names) := by
  rw [StatementShape.roleMolds, map_fill_separatedMolds, Schema.nameList, List.map_map,
    List.map_map]
  rfl

/-! ### Filters -/

theorem Leaf.length_values (leaf : Leaf) : leaf.values.length = leaf.shape.size := by
  cases leaf with
  | compare => rfl
  | member operator key first rest => simp [values, shape, LeafShape.size]

theorem Leaf.pieces_eq_fill {names : Role → String} {leaf : Leaf} {role : Role}
    (hrole : names role = leaf.key.text) (start : Nat) :
    leaf.pieces start = (leaf.shape.molds start role).map (Mold.fill names) := by
  cases leaf with
  | compare operator key operand =>
    have hkey : names role = key.text := hrole
    cases operator <;>
      simp [Leaf.pieces, Leaf.shape, Comparison.pieces, LeafShape.molds, Mold.fill, hkey]
  | member operator key first rest =>
    have hkey : names role = key.text := hrole
    cases operator <;>
      simp [Leaf.pieces, Leaf.shape, Membership.pieces, LeafShape.molds, Mold.fill, hkey,
        map_fill_slotList]

namespace Filter

theorem length_values (f : Filter) : f.values.length = f.shape.size := by
  induction f with
  | leaf condition => exact condition.length_values
  | and left right ihl ihr | or left right ihl ihr =>
    rw [values, List.length_append, ihl, ihr, shape, FilterShape.size]
  | not inner ih => exact ih
  | custom | plain => rfl

theorem length_keys (f : Filter) : f.keys.length = f.shape.leaves := by
  induction f with
  | leaf condition => rfl
  | and left right ihl ihr | or left right ihl ihr =>
    rw [keys, List.length_append, ihl, ihr, shape, FilterShape.leaves]
  | not inner ih => exact ih
  | custom | plain => rfl

theorem pieces_eq_fill {names : Role → String} {f : Filter} {position : Nat}
    (hkeys : HoldsFrom (fun index => some (names (.key index))) position f.keys) (start : Nat) :
    f.pieces start = (f.shape.molds start position).map (Mold.fill names) := by
  induction f generalizing position start with
  | leaf condition => exact condition.pieces_eq_fill (Option.some.inj hkeys.head) start
  | and left right ihl ihr | or left right ihl ihr =>
    have hright := hkeys.right
    rw [length_keys] at hright
    have hrest := ihr hright (start + left.shape.size)
    rw [Int.natCast_add] at hrest
    simp only [pieces, length_values, ihl hkeys.left, hrest, shape, FilterShape.molds,
      List.map_append, List.map_cons]
    rfl
  | not inner ih =>
    rw [pieces, ih hkeys, shape, FilterShape.molds, List.map_append, List.map_cons]
    rfl
  | custom | plain => rfl

end Filter

/-! ### Statements -/

namespace Schema

variable (s : Schema) (keys : List String)

theorem map_roleName_metadata :
    ((List.range s.metadataNames.length).map Role.metadata).map (s.roleName keys) =
      s.metadataNames := by
  apply List.ext_getElem
  · simp
  · intro position hleft hright
    simp [roleName, List.getElem?_eq_getElem hright]

theorem map_roleName_json :
    (if s.jsonColumn.isSome then [Role.json] else []).map (s.roleName keys) =
      s.jsonColumn.toList := by
  cases hjson : s.jsonColumn with
  | none => rfl
  | some name => simp [roleName, hjson]

theorem map_roleName_insertRoles :
    (StatementShape.insertRoles s.metadataNames.length s.jsonColumn.isSome).map (s.roleName keys) =
      s.insertColumns := by
  rw [StatementShape.insertRoles, List.map_append, List.map_append, map_roleName_metadata,
    map_roleName_json]
  rfl

theorem map_roleName_selectRoles :
    (StatementShape.selectRoles s.metadataNames.length s.jsonColumn.isSome).map (s.roleName keys) =
      s.selectColumns := by
  rw [StatementShape.selectRoles, List.map_append, List.map_append, map_roleName_metadata,
    map_roleName_json]
  rfl

theorem insertSlots_of_notMem {columns : List String} (h : s.embeddingColumn ∉ columns)
    (start : Int) :
    s.insertSlots start columns = (slotsFrom start columns.length).map fun slot => [slot] := by
  induction columns generalizing start with
  | nil => rfl
  | cons column columns ih =>
    simp only [List.mem_cons, not_or] at h
    rw [insertSlots, if_neg (Ne.symm h.1), ih h.2]
    rfl

/-- Only the second column of an insertion is the vector, since no other column has its name. -/
theorem insertSlots_insertColumns :
    s.insertSlots 1 s.insertColumns = [[.slot 1], [.slot 2, .raw "::vector"], [.slot 3]]
      ++ (slotsFrom 4 (s.metadataNames.length + s.jsonColumn.isSome.toNat)).map
        fun slot => [slot] := by
  have hcolumns : s.insertColumns = s.idColumn :: s.embeddingColumn :: s.contentColumn ::
      (s.metadataNames ++ s.jsonColumn.toList) := rfl
  have hnodup := s.nodup_insertColumns
  rw [hcolumns, List.nodup_cons, List.nodup_cons] at hnodup
  have hid : s.idColumn ≠ s.embeddingColumn := fun heq => hnodup.1 (heq ▸ List.mem_cons_self)
  obtain ⟨hcontent, hrest⟩ := not_or.mp fun h => hnodup.2.1 (List.mem_cons.mpr h)
  have hlength : (s.metadataNames ++ s.jsonColumn.toList).length =
      s.metadataNames.length + s.jsonColumn.isSome.toNat := by
    cases s.jsonColumn <;> simp
  rw [hcolumns, insertSlots, insertSlots, insertSlots, if_neg hid, if_pos rfl,
    if_neg (Ne.symm hcontent), s.insertSlots_of_notMem hrest, hlength]
  rfl

theorem insertPieces_eq_fill :
    s.insertPieces = (StatementShape.insert s.metadataNames.length s.jsonColumn.isSome).molds.map
      (Mold.fill (s.roleName keys)) := by
  have hslots := map_fill_slotGroups (s.roleName keys) 4
    (s.metadataNames.length + s.jsonColumn.isSome.toNat)
  rw [insertPieces, insertSlots_insertColumns, StatementShape.molds]
  simp only [List.map_append, map_fill_roleMolds, map_roleName_insertRoles,
    map_fill_separatedMolds, hslots]
  rfl

theorem holdsFrom_roleName :
    HoldsFrom (fun index => some (s.roleName keys (.key index))) 0 keys := by
  intro position key hkey
  change some (keys[0 + position]?.getD "") = some key
  rw [Nat.zero_add, hkey, Option.getD_some]

theorem searchPieces_eq_fill (distance : Distance) (filter : Option Filter) :
    s.searchPieces distance (filter.elim [] fun filter => .raw " WHERE " :: filter.pieces 2)
        ((filter.elim [] Filter.values).length + 2 : Nat) =
      (StatementShape.search s.metadataNames.length s.jsonColumn.isSome distance
        (filter.map Filter.shape)).molds.map
          (Mold.fill (s.roleName (filter.elim [] Filter.keys))) := by
  cases filter with
  | none =>
    simp only [searchPieces, StatementShape.molds, Option.map_none, Option.elim_none,
      List.map_append, map_fill_roleMolds, map_roleName_selectRoles]
    rfl
  | some filter =>
    have hpieces : filter.pieces 2 = (filter.shape.molds 2 0).map
        (Mold.fill (s.roleName filter.keys)) :=
      filter.pieces_eq_fill (s.holdsFrom_roleName filter.keys) 2
    simp only [searchPieces, StatementShape.molds, Option.map_some, Option.elim_some,
      List.map_append, List.map_cons, map_fill_roleMolds, map_roleName_selectRoles, hpieces,
      filter.length_values]
    rfl

theorem filterClause_eq {filter : Option Filter} (hfilter : ∀ f ∈ filter, f.isSupported = true) :
    filterClause filter = .ok (filter.elim [] fun filter => .raw " WHERE " :: filter.pieces 2,
      filter.elim [] Filter.values) := by
  cases filter with
  | none => rfl
  | some f =>
    rw [filterClause, f.predicate_eq (hfilter f rfl)]
    rfl

theorem filterClause_eq_ok {filter : Option Filter} {found : List Piece × List Value}
    (h : filterClause filter = .ok found) :
    (∀ f ∈ filter, f.isSupported = true) ∧
      found = (filter.elim [] fun filter => .raw " WHERE " :: filter.pieces 2,
        filter.elim [] Filter.values) := by
  cases filter with
  | none =>
    cases h
    exact ⟨fun f hf => absurd hf (Option.not_mem_none f), rfl⟩
  | some filter =>
    obtain ⟨p, hpredicate, h⟩ := bind_eq_ok_iff.mp h
    obtain ⟨hfilter, rfl⟩ := Filter.predicate_eq_ok_iff.mp hpredicate
    cases h
    refine ⟨?_, rfl⟩
    intro f hf
    cases hf
    exact hfilter

end Schema

namespace Origin

/-- A statement that can be made is the text of its pieces, and its filter can be expressed. -/
theorem sql_eq_render {a : Origin} {sql : String} (h : a.sql? = .ok sql) :
    sql = render a.pieces ∧ ∀ f ∈ a.filter?, f.isSupported = true := by
  have hnone : ∀ f ∈ (none : Option Filter), f.isSupported = true := fun f hf =>
    absurd hf (Option.not_mem_none f)
  cases a with
  | insert schema records =>
    obtain ⟨batch, hbatch, rfl⟩ := map_eq_ok_iff.mp h
    obtain ⟨rows, -, hbatch⟩ := bind_eq_ok_iff.mp hbatch
    cases hbatch
    exact ⟨rfl, hnone⟩
  | search schema distance request =>
    obtain ⟨query, hquery, rfl⟩ := map_eq_ok_iff.mp h
    obtain ⟨vector, -, hquery⟩ := bind_eq_ok_iff.mp hquery
    obtain ⟨found, hfound, hquery⟩ := bind_eq_ok_iff.mp hquery
    obtain ⟨hfilter, rfl⟩ := Schema.filterClause_eq_ok hfound
    cases hquery
    refine ⟨?_, hfilter⟩
    rw [pieces, Query.sql, List.length_append, List.length_cons]
    rfl
  | predicate filter start =>
    obtain ⟨p, hpredicate, rfl⟩ := map_eq_ok_iff.mp h
    obtain ⟨hfilter, rfl⟩ := Filter.predicate_eq_ok_iff.mp hpredicate
    refine ⟨rfl, ?_⟩
    intro f hf
    cases hf
    exact hfilter
  | delete schema ids | getByIds schema ids =>
    obtain ⟨query, hquery, rfl⟩ := map_eq_ok_iff.mp h
    obtain ⟨found, -, hquery⟩ := bind_eq_ok_iff.mp hquery
    cases hquery
    exact ⟨rfl, hnone⟩
  | dropIndex | reindex =>
    cases h
    exact ⟨rfl, hnone⟩

/-- The pieces of a statement are the mold of its shape with the names of the roles. -/
theorem pieces_eq_fill (a : Origin) : a.pieces = a.shape.molds.map (Mold.fill a.roleName) := by
  cases a with
  | insert schema records => exact schema.insertPieces_eq_fill []
  | search schema distance request => exact schema.searchPieces_eq_fill distance request.filter
  | predicate filter start =>
    apply filter.pieces_eq_fill
    intro position key hkey
    change some (filter.keys[0 + position]?.getD "") = some key
    rw [Nat.zero_add, hkey, Option.getD_some]
  | getByIds schema ids =>
    simp only [pieces, shape, StatementShape.molds, List.map_append, map_fill_roleMolds]
    rw [roleName, schema.map_roleName_selectRoles]
    rfl
  | delete | dropIndex | reindex => rfl

end Origin

end VectorTable
