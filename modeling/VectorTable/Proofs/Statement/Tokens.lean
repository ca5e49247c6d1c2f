import VectorTable.Proofs.Statement.Molds

/-!
# The tokens of statements

A statement is read as the tokens of its shape with the names of the roles filled in: one token for each name, whatever its characters, and the same other tokens for every statement of the shape. So neither names nor values can be read as anything else than what they are.
-/

namespace VectorTable

open Sql

def Sql.Token.isName : Token → Bool
  | name _ => true
  | word _ | number _ | slot _ | operator _ | cast | mark _ => false

inductive TokenMold
  | name (role : Role)
  | fixed (token : Token)
deriving DecidableEq, Repr

def TokenMold.fill (names : Role → String) : TokenMold → Token
  | name role => .name (names role)
  | fixed token => token

def Mold.tokens : Mold → List TokenMold
  | raw text => (Piece.raw text).tokens.map .fixed
  | name role => [.name role]
  | slot index => [.fixed (.slot index.toNat)]

def StatementShape.tokens (shape : StatementShape) : List TokenMold :=
  shape.molds.flatMap Mold.tokens

/-! ### Filling tokens -/

theorem Mold.tokens_fill (names : Role → String) (mold : Mold) :
    (mold.fill names).tokens = mold.tokens.map (TokenMold.fill names) := by
  cases mold with
  | raw text =>
    rw [fill, tokens, List.map_map]
    exact (List.map_id _).symm
  | name | slot => rfl

theorem StatementShape.flatMap_tokens_fill (names : Role → String) (shape : StatementShape) :
    (shape.molds.map (Mold.fill names)).flatMap Piece.tokens =
      shape.tokens.map (TokenMold.fill names) := by
  rw [tokens, List.flatMap_map, List.map_flatMap]
  simp only [Mold.tokens_fill]

theorem StatementShape.mem_tokens_of_mem_molds {shape : StatementShape} {role : Role}
    (h : .name role ∈ shape.molds) : .name role ∈ shape.tokens :=
  List.mem_flatMap.mpr ⟨.name role, h, List.mem_singleton.mpr rfl⟩

/-- Which names are filled in has no part in the other tokens. -/
theorem filter_map_fill (names others : Role → String) (tokens : List TokenMold) :
    (tokens.map (TokenMold.fill names)).filter (fun token => !token.isName) =
      (tokens.map (TokenMold.fill others)).filter fun token => !token.isName := by
  induction tokens with
  | nil => rfl
  | cons token tokens ih =>
    rw [List.map_cons, List.map_cons, List.filter_cons, List.filter_cons, ih]
    cases token <;> rfl

/-! ### Fixed tokens -/

def Mold.isPlain : Mold → Bool
  | raw text => (Piece.raw text).tokens.all fun token => !token.isName
  | name _ | slot _ => true

theorem Mold.not_isName_of_isPlain {mold : Mold} (h : mold.isPlain = true) {token : Token}
    (htoken : .fixed token ∈ mold.tokens) : token.isName = false := by
  cases mold with
  | raw text =>
    obtain ⟨_, hmem, heq⟩ := List.mem_map.mp htoken
    cases heq
    exact Bool.not_eq_true' _ ▸ List.all_eq_true.mp h token hmem
  | name role => cases List.mem_singleton.mp htoken
  | slot index =>
    cases List.mem_singleton.mp htoken
    rfl

theorem all_isPlain_separatedMolds {separator : String}
    (hseparator : (Mold.raw separator).isPlain = true) {groups : List (List Mold)}
    (hgroups : ∀ group ∈ groups, group.all Mold.isPlain = true) :
    (separatedMolds separator groups).all Mold.isPlain = true := by
  induction groups with
  | nil => rfl
  | cons group groups ih =>
    have hgroup := hgroups group List.mem_cons_self
    have hrest := ih fun next hnext => hgroups next (List.mem_cons_of_mem group hnext)
    cases groups with
    | nil =>
      rw [separatedMolds, List.intercalate_singleton]
      exact hgroup
    | cons next groups =>
      rw [separatedMolds] at hrest
      rw [separatedMolds, List.intercalate_cons_cons, List.all_append, List.all_append, hgroup,
        hrest, List.all_cons, hseparator]
      rfl

theorem all_isPlain_slotGroups (start count : Nat) :
    ∀ group ∈ (slotMolds start count).map fun slot => [slot], group.all Mold.isPlain = true := by
  intro group hgroup
  obtain ⟨slot, hslot, rfl⟩ := List.mem_map.mp hgroup
  obtain ⟨index, -, rfl⟩ := List.mem_map.mp hslot
  rfl

theorem all_isPlain_roleMolds (roles : List Role) :
    (StatementShape.roleMolds roles).all Mold.isPlain = true := by
  apply all_isPlain_separatedMolds (by decide)
  intro group hgroup
  obtain ⟨role, -, rfl⟩ := List.mem_map.mp hgroup
  rfl

theorem LeafShape.all_isPlain_molds (leaf : LeafShape) (start : Nat) (role : Role) :
    (leaf.molds start role).all Mold.isPlain = true := by
  cases leaf with
  | compare operator => cases operator <;> rfl
  | member operator more =>
    have hslots := all_isPlain_separatedMolds (by decide : (Mold.raw ", ").isPlain = true)
      (all_isPlain_slotGroups start (more + 1))
    cases operator with
    | among =>
      rw [molds, List.all_append, List.all_append, hslots]
      rfl
    | notAmong =>
      rw [molds, List.all_append, List.all_append, hslots]
      rfl

theorem FilterShape.all_isPlain_molds (filter : FilterShape) (start position : Nat) :
    (filter.molds start position).all Mold.isPlain = true := by
  induction filter generalizing start position with
  | leaf condition => exact condition.all_isPlain_molds start _
  | and left right ihl ihr =>
    have hand : (Mold.raw " AND ").isPlain = true := by decide
    rw [molds, List.all_append, List.all_cons, ihl, ihr, hand]
    rfl
  | or left right ihl ihr =>
    have hor : (Mold.raw " OR ").isPlain = true := by decide
    have hopen : (Mold.raw "(").isPlain = true := by decide
    rw [molds, List.all_append, List.all_append, List.all_cons, List.all_cons, ihl, ihr, hor, hopen]
    rfl
  | not inner ih =>
    have hnot : (Mold.raw "NOT(").isPlain = true := by decide
    rw [molds, List.all_append, List.all_cons, ih, hnot]
    rfl
  | nothing => rfl

namespace StatementShape

theorem all_isPlain_molds (shape : StatementShape) : shape.molds.all Mold.isPlain = true := by
  cases shape with
  | insert metadata json =>
    have hslots : (separatedMolds ", " ([[.slot 1], [.slot 2, .raw "::vector"], [.slot 3]]
        ++ (slotMolds 4 (metadata + json.toNat)).map fun slot => [slot])).all Mold.isPlain = true := by
      apply all_isPlain_separatedMolds (by decide)
      intro group hgroup
      rcases List.mem_append.mp hgroup with hfirst | hrest
      · have hall : ∀ group ∈ [[.slot 1], [.slot 2, .raw "::vector"], [.slot 3]],
            group.all Mold.isPlain = true := by decide
        exact hall group hfirst
      · exact all_isPlain_slotGroups 4 _ group hrest
    simp only [molds, List.all_append, all_isPlain_roleMolds, hslots]
    rfl
  | search metadata json distance filter =>
    have hopen : (Mold.raw (", " ++ distance.searchFunction ++ "(")).isPlain = true := by
      cases distance <;> decide
    have horder : (Mold.raw (" " ++ distance.operator ++ " ")).isPlain = true := by
      cases distance <;> decide
    have hwhere : (Mold.raw " WHERE ").isPlain = true := by decide
    cases filter with
    | none =>
      simp only [molds, List.all_append, List.all_cons, all_isPlain_roleMolds, hopen, horder]
      rfl
    | some filter =>
      simp only [molds, List.all_append, List.all_cons, all_isPlain_roleMolds, hopen, horder,
        hwhere, filter.all_isPlain_molds]
      rfl
  | predicate filter start => exact filter.all_isPlain_molds start 0
  | getByIds metadata json =>
    simp only [molds, List.all_append, all_isPlain_roleMolds]
    rfl
  | delete | dropIndex | reindex => rfl

theorem not_isName_of_fixed {shape : StatementShape} {token : Token}
    (h : .fixed token ∈ shape.tokens) : token.isName = false := by
  obtain ⟨mold, hmold, htoken⟩ := List.mem_flatMap.mp h
  exact Mold.not_isName_of_isPlain (List.all_eq_true.mp shape.all_isPlain_molds mold hmold) htoken

end StatementShape

/-! ### Statements that can be read piece by piece -/

namespace Schema

variable (s : Schema)

theorem legible_tablePieces : Legible s.tablePieces :=
  (legible_singleton rfl : Legible [.name s.schema]).glue
    (by decide : (Piece.raw ".").isGlue = true) (legible_singleton rfl)

theorem legible_nameList (names : List String) : Legible (nameList names) := by
  apply legible_separated (by decide)
  intro group hgroup
  obtain ⟨name, -, rfl⟩ := List.mem_map.mp hgroup
  exact legible_singleton rfl

theorem legible_insertSlots (start : Nat) (columns : List String) :
    ∀ group ∈ s.insertSlots start columns, Legible group := by
  induction columns generalizing start with
  | nil =>
    intro group hgroup
    cases hgroup
  | cons column columns ih =>
    intro group hgroup
    rw [insertSlots] at hgroup
    rcases List.mem_cons.mp hgroup with rfl | hrest
    · have hslot : Legible [.slot (start : Int)] := legible_singleton (by simp [Piece.readable])
      by_cases hcolumn : column = s.embeddingColumn
      · rw [if_pos hcolumn]
        exact hslot.concat (by decide : ((Piece.raw "::vector").readable &&
          (Piece.raw "::vector").beginsApart) = true)
      · rw [if_neg hcolumn]
        exact hslot
    · exact ih (start + 1) group hrest

theorem legible_insertPieces : Legible s.insertPieces := by
  have htable : Legible (.raw "INSERT INTO " :: s.tablePieces) :=
    s.legible_tablePieces.cons (by decide)
  have hslots := legible_separated (by decide : (Piece.raw ", ").isGlue = true)
    (s.legible_insertSlots 1 s.insertColumns)
  have hvalues := (legible_nameList s.insertColumns).glue
    (by decide : (Piece.raw ") VALUES (").isGlue = true) hslots
  have hclosed := (htable.glue (by decide : (Piece.raw " (").isGlue = true) hvalues).concat
    (by decide : ((Piece.raw ")").readable && (Piece.raw ")").beginsApart) = true)
  simpa [insertPieces] using hclosed

theorem legible_identifierClause {pieces : List Piece} (hpieces : Legible pieces) :
    Legible (pieces ++ s.identifierClause) := by
  have hid : Legible [.name s.idColumn] := legible_singleton rfl
  have hids : Legible [.slot 1] := legible_singleton (by decide)
  have hany := hid.glue (by decide : (Piece.raw " = ANY(").isGlue = true) hids
  have hclosed := hany.concat
    (by decide : ((Piece.raw ")").readable && (Piece.raw ")").beginsApart) = true)
  exact hpieces.glue (by decide : (Piece.raw " WHERE ").isGlue = true) hclosed

theorem legible_searchPieces (distance : Distance) {clause : List Piece} (hclause : Legible clause)
    (hbegins : ∀ p ∈ clause.head?, p.beginsApart = true) (limit : Nat) :
    Legible (s.searchPieces distance clause limit) := by
  have hopen : (Piece.raw (", " ++ distance.searchFunction ++ "(")).isGlue = true := by
    cases distance <;> decide
  have horder : (Piece.raw (" " ++ distance.operator ++ " ")).isGlue = true := by
    cases distance <;> decide
  have hembedding : Legible [.name s.embeddingColumn] := legible_singleton rfl
  have hvector : Legible [.slot 1] := legible_singleton (by decide)
  have hlimit : Legible [.slot (limit : Int)] := legible_singleton (by simp [Piece.readable])
  have hcall := hembedding.glue (by decide : (Piece.raw ", ").isGlue = true) hvector
  have hfrom := hcall.glue (by decide : (Piece.raw "::vector) AS distance FROM ").isGlue = true)
    s.legible_tablePieces
  have hselect : Legible (.raw "SELECT " :: nameList s.selectColumns) :=
    (legible_nameList s.selectColumns).cons (by decide)
  have hrows := (hselect.glue hopen hfrom).append hclause (.inr hbegins)
  have hnearest := hembedding.glue horder
    (hvector.glue (by decide : (Piece.raw "::vector LIMIT ").isGlue = true) hlimit)
  have hall := hrows.glue (by decide : (Piece.raw " ORDER BY ").isGlue = true) hnearest
  simpa [searchPieces] using hall

theorem legible_search (distance : Distance) {filter : Option Filter}
    (hfilter : ∀ f ∈ filter, f.isSupported = true) (limit : Nat) :
    Legible (s.searchPieces distance
      (filter.elim [] fun filter => .raw " WHERE " :: filter.pieces 2) limit) := by
  cases filter with
  | none =>
    have hempty : Legible [] := ⟨fun p hp => absurd hp List.not_mem_nil, .nil⟩
    exact s.legible_searchPieces distance hempty (fun p hp => by cases hp) limit
  | some f =>
    refine s.legible_searchPieces distance ((f.legible_pieces (hfilter f rfl) 2).cons (by decide)) ?_
      limit
    intro p hp
    cases hp
    decide

end Schema

theorem Store.legible_indexPieces (s : Store) (name : String) : Legible (s.indexPieces name) :=
  (legible_singleton rfl : Legible [.name s.schema.schema]).glue
    (by decide : (Piece.raw ".").isGlue = true) (legible_singleton rfl)

namespace Origin

theorem legible_pieces {a : Origin} (h : ∀ f ∈ a.filter?, f.isSupported = true) :
    Legible a.pieces := by
  cases a with
  | insert schema records => exact schema.legible_insertPieces
  | search schema distance request => exact schema.legible_search distance h _
  | predicate filter start => exact filter.legible_pieces (h filter rfl) start
  | delete schema ids =>
    have htable := schema.legible_tablePieces
    exact schema.legible_identifierClause (htable.cons (by decide))
  | getByIds schema ids =>
    have hcolumns := (Schema.legible_nameList schema.selectColumns).glue
      (by decide : (Piece.raw " FROM ").isGlue = true) schema.legible_tablePieces
    have hselect : Legible (.raw "SELECT " :: _) := hcolumns.cons (by decide)
    simpa [pieces] using schema.legible_identifierClause hselect
  | dropIndex store name => exact (store.legible_indexPieces _).cons (by decide)
  | reindex store name => exact (store.legible_indexPieces _).cons (by decide)

/-- A statement is read as the tokens of its shape, each role being one name, and apart from names as any other statement of the shape. With the same names it is the same text. -/
theorem lex?_sql {a : Origin} {sql : String} (h : a.sql? = .ok sql) :
    lex? sql = some (a.shape.tokens.map (TokenMold.fill a.roleName)) ∧
      (∀ token, .fixed token ∈ a.shape.tokens → token.isName = false) ∧
      ∀ (b : Origin) (other : String), b.sql? = .ok other → b.shape = a.shape →
        (∃ read readOther, lex? sql = some read ∧ lex? other = some readOther ∧
          readOther.filter (fun token => !token.isName) =
            read.filter fun token => !token.isName) ∧
        ((∀ role, .name role ∈ a.shape.tokens → b.roleName role = a.roleName role) →
          other = sql) := by
  have hread : ∀ {c : Origin} {text : String}, c.sql? = .ok text →
      lex? text = some (c.shape.tokens.map (TokenMold.fill c.roleName)) := by
    intro c text hc
    obtain ⟨rfl, hfilter⟩ := sql_eq_render hc
    rw [lex?_render (legible_pieces hfilter), pieces_eq_fill, StatementShape.flatMap_tokens_fill]
  refine ⟨hread h, fun token => StatementShape.not_isName_of_fixed, ?_⟩
  intro b other hb hshape
  refine ⟨⟨_, _, hread h, hread hb, ?_⟩, fun hnames => ?_⟩
  · rw [hshape]
    exact filter_map_fill _ _ _
  · obtain ⟨rfl, -⟩ := sql_eq_render h
    obtain ⟨rfl, -⟩ := sql_eq_render hb
    rw [pieces_eq_fill, pieces_eq_fill, hshape]
    congr 1
    apply List.map_congr_left
    intro mold hmold
    cases mold with
    | name role =>
      exact congrArg Piece.name (hnames role (StatementShape.mem_tokens_of_mem_molds hmold))
    | raw | slot => rfl

/-- Names may hold quotes, slots and words of the language, and the ids have no part in the text. -/
theorem lex?_sql_delete :
    let s : Schema :=
      ⟨{ Draft.ofTable "a\"b" with schema := " AND ", idColumn := "$1" }, by decide⟩
    ∃ sql, (delete s (.list [.text "x"])).sql? = .ok sql ∧
      (delete s (.list [.text "y", .int 2])).sql? = .ok sql ∧
      lex? sql = some [.word "delete", .word "from", .name " AND ", .mark '.', .name "a\"b",
        .word "where", .name "$1", .operator "=", .word "any", .mark '(', .slot 1, .mark ')'] := by
  intro s
  have hsql : (delete s (.list [.text "x"])).sql? =
      .ok (render (delete s (.list [.text "x"])).pieces) := rfl
  have hother : (delete s (.list [.text "y", .int 2])).sql? =
      .ok (render (delete s (.list [.text "y", .int 2])).pieces) := rfl
  obtain ⟨hread, -, hsame⟩ := lex?_sql hsql
  obtain ⟨-, htext⟩ := hsame _ _ hother rfl
  refine ⟨_, hsql, ?_, ?_⟩
  · rw [hother, htext fun role _ => rfl]
  · rw [hread]
    decide

end Origin

end VectorTable
