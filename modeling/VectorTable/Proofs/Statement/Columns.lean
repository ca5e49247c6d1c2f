import VectorTable.Proofs.Statement.Slots

/-!
# The columns that statements name

Every statement names its table once, by two quoted names with a dot between them. All its other quoted names stand for columns. Here they are collected from the text of a statement as the database reads it: an insertion, a selection and a deletion name columns of the schema, and the condition of a search names the keys of its filter besides.
-/

namespace VectorTable

open Sql

namespace Sql

/-- The quoted names among tokens that stand for columns, which are those without a dot between them and another name. -/
def columnNames : List Token → List String
  | .name _ :: .mark '.' :: .name _ :: rest => columnNames rest
  | .name identifier :: rest => identifier :: columnNames rest
  | _ :: rest => columnNames rest
  | [] => []

/-- A token that is no dot and, if it is a name, is one of some names. -/
def Token.IsAmong (names : List String) : Token → Prop
  | name identifier => identifier ∈ names
  | mark char => char ≠ '.'
  | word _ | number _ | slot _ | operator _ | cast => True

def AllAmong (names : List String) (tokens : List Token) : Prop :=
  ∀ token ∈ tokens, token.IsAmong names

variable {names more : List String} {tokens rest : List Token}

@[simp] theorem allAmong_nil : AllAmong names [] := List.forall_mem_nil _

@[simp] theorem allAmong_cons {token : Token} :
    AllAmong names (token :: tokens) ↔ token.IsAmong names ∧ AllAmong names tokens :=
  List.forall_mem_cons

@[simp] theorem allAmong_append :
    AllAmong names (tokens ++ rest) ↔ AllAmong names tokens ∧ AllAmong names rest :=
  List.forall_mem_append

theorem AllAmong.mono (h : AllAmong names tokens) (hsub : names ⊆ more) : AllAmong more tokens := by
  intro token htoken
  have hthis := h token htoken
  cases token with
  | name identifier => exact hsub hthis
  | _ => exact hthis

theorem columnNames_name_cons {identifier : String} (h : ∀ rest, tokens ≠ .mark '.' :: rest) :
    columnNames (.name identifier :: tokens) = identifier :: columnNames tokens := by
  rw [columnNames]
  intro _ rest heq
  exact h _ heq

theorem AllAmong.columnNames_subset (h : AllAmong names tokens) : columnNames tokens ⊆ names := by
  fun_induction columnNames tokens with
  | case1 _ _ rest ih => simp [Token.IsAmong] at h
  | case2 identifier rest _ ih =>
    obtain ⟨hmem, hrest⟩ := allAmong_cons.mp h
    exact List.cons_subset.mpr ⟨hmem, ih hrest⟩
  | case3 _ rest _ _ ih => exact ih (allAmong_cons.mp h).2
  | case4 => exact List.nil_subset _

/-- A statement that names one table names only columns besides. -/
theorem columnNames_subset_of_table {before after : List Token} (hbefore : AllAmong names before)
    (hafter : AllAmong names after) (schema table : String) :
    columnNames (before ++ .name schema :: .mark '.' :: .name table :: after) ⊆ names := by
  induction before with
  | nil => exact hafter.columnNames_subset
  | cons token before ih =>
    obtain ⟨htoken, hrest⟩ := allAmong_cons.mp hbefore
    cases token with
    | name identifier =>
      have hnext : ∀ rest, before ++ .name schema :: .mark '.' :: .name table :: after ≠
          .mark '.' :: rest := by
        intro rest heq
        cases before with
        | nil => cases heq
        | cons next before =>
          cases heq
          exact (allAmong_cons.mp hrest).1 rfl
      rw [List.cons_append, columnNames_name_cons hnext]
      exact List.cons_subset.mpr ⟨htoken, ih hrest⟩
    | _ => exact ih hrest

theorem allAmong_separated {separator : String}
    (hseparator : AllAmong names (Piece.raw separator).tokens) {groups : List (List Piece)}
    (hgroups : ∀ group ∈ groups, AllAmong names (group.flatMap Piece.tokens)) :
    AllAmong names ((separated separator groups).flatMap Piece.tokens) := by
  induction groups with
  | nil => exact allAmong_nil
  | cons group groups ih =>
    obtain ⟨hgroup, hrest⟩ := List.forall_mem_cons.mp hgroups
    cases groups with
    | nil =>
      rw [separated_singleton]
      exact hgroup
    | cons next groups =>
      rw [separated_cons_cons, List.flatMap_append, List.flatMap_cons]
      exact allAmong_append.mpr ⟨hgroup, allAmong_append.mpr ⟨hseparator, ih hrest⟩⟩

theorem allAmong_comma : AllAmong names (Piece.raw ", ").tokens := by
  have hcomma : (Piece.raw ", ").tokens = [.mark ','] := by decide
  simp [hcomma, Token.IsAmong]

theorem AllAmong.intersperse (h : AllAmong names tokens) {separator : Token}
    (hseparator : separator.IsAmong names) : AllAmong names (tokens.intersperse separator) := by
  induction tokens with
  | nil => exact h
  | cons token tokens ih =>
    obtain ⟨htoken, hrest⟩ := allAmong_cons.mp h
    cases tokens with
    | nil => exact h
    | cons next tokens =>
      rw [List.intersperse_cons_cons]
      exact allAmong_cons.mpr ⟨htoken, allAmong_cons.mpr ⟨hseparator, ih hrest⟩⟩

theorem allAmong_slot (index : Int) : AllAmong names (Piece.slot index).tokens :=
  List.forall_mem_singleton.mpr trivial

theorem allAmong_slotTokens (indexes : List Nat) : AllAmong names (slotTokens indexes) := by
  apply AllAmong.intersperse ?_ (by simp [Token.IsAmong])
  intro token htoken
  obtain ⟨index, -, rfl⟩ := List.mem_map.mp htoken
  exact trivial

end Sql

open Sql

/-! ### Conditions -/

theorem Leaf.allAmong_tokens (leaf : Leaf) (start : Nat) :
    AllAmong [leaf.key.text] (leaf.tokens start) := by
  cases leaf with
  | compare operator key operand => 
    cases operator <;> simp [tokens, Comparison.tokens, Token.IsAmong, Leaf.key]
  | member operator key first rest => 
    cases operator <;> simp [tokens, Membership.tokens, Token.IsAmong, Leaf.key, allAmong_slotTokens]

theorem Filter.allAmong_tokens (filter : Filter) (start : Nat) :
    AllAmong filter.keys (filter.tokens start) := by
  induction filter generalizing start with
  | leaf condition => exact condition.allAmong_tokens start
  | and left right ihl ihr =>
    have hleft := (ihl start).mono (List.subset_append_left left.keys right.keys)
    have hright := (ihr (start + left.values.length)).mono
      (List.subset_append_right left.keys right.keys)
    simp [tokens, keys, Token.IsAmong, hleft, hright]
  | or left right ihl ihr =>
    have hleft := (ihl start).mono (List.subset_append_left left.keys right.keys)
    have hright := (ihr (start + left.values.length)).mono
      (List.subset_append_right left.keys right.keys)
    simp [tokens, keys, Token.IsAmong, hleft, hright]
  | not inner ih => simp [tokens, keys, Token.IsAmong, ih]
  | custom | plain => exact allAmong_nil

/-! ### Statements -/

namespace Schema

variable (s : Schema)

theorem allAmong_nameTokens (names : List String) : AllAmong names (nameTokens names) := by
  apply AllAmong.intersperse ?_ (by simp [Token.IsAmong])
  intro token htoken
  obtain ⟨name, hname, rfl⟩ := List.mem_map.mp htoken
  exact hname

theorem allAmong_insertSlots (names : List String) (start : Int) (columns : List String) :
    ∀ group ∈ s.insertSlots start columns, AllAmong names (group.flatMap Piece.tokens) := by
  have hcast : (Piece.raw "::vector").tokens = [.cast, .word "vector"] := by decide
  induction columns generalizing start with
  | nil => exact List.forall_mem_nil _
  | cons column columns ih =>
    rw [insertSlots, List.forall_mem_cons]
    refine ⟨?_, ih (start + 1)⟩
    split <;> simp [hcast, Token.IsAmong, allAmong_slot]

theorem tokens_tablePieces : s.tablePieces.flatMap Piece.tokens =
    [.name s.schema, .mark '.', .name s.table] := by
  have hdot : (Piece.raw ".").tokens = [.mark '.'] := by decide
  simp [tablePieces, hdot]

theorem allAmong_identifierClause {names : List String} (hid : s.idColumn ∈ names) :
    AllAmong names (s.identifierClause.flatMap Piece.tokens) := by
  have hwhere : (Piece.raw " WHERE ").tokens = [.word "where"] := by decide
  have hany : (Piece.raw " = ANY(").tokens = [.operator "=", .word "any", .mark '('] := by decide
  have hclose : (Piece.raw ")").tokens = [.mark ')'] := by decide
  simp [identifierClause, hwhere, hany, hclose, Token.IsAmong, hid, allAmong_slot]

/-- A statement that can be read and names only some columns. -/
def NamesOnly (names : List String) (sql : String) : Prop :=
  ∃ tokens, lex? sql = some tokens ∧ columnNames tokens ⊆ names

theorem NamesOnly.mono {names more : List String} {sql : String} (h : NamesOnly names sql)
    (hsub : names ⊆ more) : NamesOnly more sql := by
  obtain ⟨tokens, hlex, hnames⟩ := h
  exact ⟨tokens, hlex, List.Subset.trans hnames hsub⟩

theorem namesOnly_of_pieces {names : List String} {before after : List Piece}
    (hlegible : Legible (before ++ s.tablePieces ++ after))
    (hbefore : AllAmong names (before.flatMap Piece.tokens))
    (hafter : AllAmong names (after.flatMap Piece.tokens)) :
    NamesOnly names (render (before ++ s.tablePieces ++ after)) := by
  refine ⟨_, lex?_render hlegible, ?_⟩
  rw [List.flatMap_append, List.flatMap_append, tokens_tablePieces, List.append_assoc]
  exact columnNames_subset_of_table hbefore hafter s.schema s.table

theorem allAmong_nameList (names : List String) :
    AllAmong names ((nameList names).flatMap Piece.tokens) := by
  rw [tokens_nameList]
  exact allAmong_nameTokens names

theorem allAmong_conditionTokens (filter : Option Filter) :
    AllAmong (filter.elim [] Filter.keys) (conditionTokens filter) := by
  cases filter with
  | none => exact allAmong_nil
  | some f => exact allAmong_cons.mpr ⟨trivial, f.allAmong_tokens 2⟩

theorem namesOnly_insert {records : List Record} {batch : Batch}
    (h : s.insert records = .ok batch) : NamesOnly s.insertColumns batch.sql := by
  have hinsert : (Piece.raw "INSERT INTO ").tokens = [.word "insert", .word "into"] := by decide
  have hopen : (Piece.raw " (").tokens = [.mark '('] := by decide
  have hvalues : (Piece.raw ") VALUES (").tokens = [.mark ')', .word "values", .mark '('] := by
    decide
  have hclose : (Piece.raw ")").tokens = [.mark ')'] := by decide
  have hslots := allAmong_separated allAmong_comma
    (s.allAmong_insertSlots s.insertColumns 1 s.insertColumns)
  have hpieces : s.insertPieces = [.raw "INSERT INTO "] ++ s.tablePieces ++ ([.raw " ("] ++
      nameList s.insertColumns ++ [.raw ") VALUES ("] ++
        separated ", " (s.insertSlots 1 s.insertColumns) ++ [.raw ")"]) := by
    simp [insertPieces]
  obtain ⟨rows, -, h⟩ := bind_eq_ok_iff.mp h
  cases h
  have hlegible := s.legible_insertPieces
  rw [Batch.sql, hpieces]
  rw [hpieces] at hlegible
  apply s.namesOnly_of_pieces hlegible
  · simp [hinsert, Token.IsAmong]
  · simp [hopen, hvalues, hclose, Token.IsAmong, allAmong_nameList, hslots]

theorem namesOnly_delete {ids : Value} {query : Query} (h : s.delete ids = .ok query) :
    NamesOnly [s.idColumn] query.sql := by
  have hdelete : (Piece.raw "DELETE FROM ").tokens = [.word "delete", .word "from"] := by decide
  obtain ⟨values, -, h⟩ := bind_eq_ok_iff.mp h
  cases h
  have hlegible : Legible (Origin.delete s ids).pieces := Origin.legible_pieces nofun
  apply s.namesOnly_of_pieces hlegible
  · simp [hdelete, Token.IsAmong]
  · exact s.allAmong_identifierClause List.mem_cons_self

theorem namesOnly_getByIds {ids : Value} {query : Query} (h : s.getByIds ids = .ok query) :
    NamesOnly s.selectColumns query.sql := by
  have hselect : (Piece.raw "SELECT ").tokens = [.word "select"] := by decide
  have hfrom : (Piece.raw " FROM ").tokens = [.word "from"] := by decide
  have hid : s.idColumn ∈ s.selectColumns := by simp [selectColumns]
  obtain ⟨values, -, h⟩ := bind_eq_ok_iff.mp h
  cases h
  have hlegible : Legible (Origin.getByIds s ids).pieces := Origin.legible_pieces nofun
  apply s.namesOnly_of_pieces hlegible
  · simp [hselect, hfrom, Token.IsAmong, allAmong_nameList]
  · exact s.allAmong_identifierClause hid

theorem namesOnly_search {distance : Distance} {request : SearchRequest} {query : Query}
    (h : s.search distance request = .ok query) :
    NamesOnly (s.selectColumns ++ request.filter.elim [] Filter.keys) query.sql := by
  have hsql : (Origin.search s distance request).sql? = .ok query.sql := by
    rw [Origin.sql?, h]
    rfl
  obtain ⟨hrender, hfilter⟩ := Origin.sql_eq_render hsql
  have hsupported : ∀ f ∈ request.filter, f.isSupported = true := hfilter
  have hembedding : s.embeddingColumn ∈ s.selectColumns := by simp [selectColumns]
  let names := s.selectColumns ++ request.filter.elim [] Filter.keys
  let before := .word "select" :: nameTokens s.selectColumns ++ [.mark ',',
    .word distance.searchFunction, .mark '(', .name s.embeddingColumn, .mark ',', .slot 1, .cast,
    .word "vector", .mark ')', .word "as", .word "distance", .word "from"]
  let after := conditionTokens request.filter ++ s.orderTokens distance ++
    [.word "limit", .slot ((request.filter.elim [] Filter.values).length + 2)]
  have hnames : AllAmong names (nameTokens s.selectColumns) :=
    (allAmong_nameTokens s.selectColumns).mono (List.subset_append_left _ _)
  have hcondition : AllAmong names (conditionTokens request.filter) :=
    (allAmong_conditionTokens request.filter).mono (List.subset_append_right _ _)
  have hbefore : AllAmong names before := by
    simp [before, Token.IsAmong, hnames, names, hembedding]
  have hafter : AllAmong names after := by
    simp [after, orderTokens, Token.IsAmong, hcondition, names, hembedding]
  refine ⟨before ++ .name s.schema :: .mark '.' :: .name s.table :: after, ?_,
    columnNames_subset_of_table hbefore hafter s.schema s.table⟩
  rw [hrender, lex?_render (Origin.legible_pieces hfilter), Origin.pieces,
    s.tokens_searchPieces distance hsupported]
  simp [before, after, selectionTokens]

/-- The statements that are built from a schema name only some columns. A search names the keys of its filter besides. -/
structure NamesColumns (names : List String) : Prop where
  insert : ∀ records batch, s.insert records = .ok batch → NamesOnly names batch.sql
  search : ∀ distance request query, s.search distance request = .ok query →
    NamesOnly (names ++ request.filter.elim [] Filter.keys) query.sql
  getByIds : ∀ ids query, s.getByIds ids = .ok query → NamesOnly names query.sql
  delete : ∀ ids query, s.delete ids = .ok query → NamesOnly names query.sql

theorem namesColumns_of_subset {names : List String} (hsub : s.selectColumns ⊆ names) :
    s.NamesColumns names where
  insert _ _ h := by
    have hsame := s.perm_insertColumns.trans s.perm_selectColumns.symm
    exact (s.namesOnly_insert h).mono fun name hname => hsub (hsame.mem_iff.mp hname)
  search _ request _ h := by
    apply (s.namesOnly_search h).mono
    exact List.append_subset.mpr ⟨List.subset_append_of_subset_left _ hsub,
      List.subset_append_right _ _⟩
  getByIds _ _ h := (s.namesOnly_getByIds h).mono hsub
  delete _ _ h := by
    have hid : s.idColumn ∈ s.selectColumns := by simp [selectColumns]
    exact (s.namesOnly_delete h).mono (List.cons_subset.mpr ⟨hsub hid, List.nil_subset _⟩)

end Schema

end VectorTable
