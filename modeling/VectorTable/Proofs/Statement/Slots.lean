import VectorTable.Proofs.Statement.Tokens
import VectorTable.Proofs.Vector.Text

/-!
# The slots of a search

The slots of a search are read from left to right: the vector, the values of the filter one after the other in its condition, the vector again in the order, and the limit. They are numbered as the values are bound, so none is without a value and no value is without a slot. Names have no part in this, even if they look like slots.
-/

namespace VectorTable

open Sql

/-! ### Slots among tokens -/

namespace Sql

def Token.slot? : Token → Option Nat
  | slot index => some index
  | name _ | word _ | number _ | operator _ | cast | mark _ => none

/-- The indexes of the slots among tokens, in order. -/
def slotIndexes (tokens : List Token) : List Nat := tokens.filterMap Token.slot?

@[simp] theorem slotIndexes_nil : slotIndexes [] = [] := rfl

@[simp] theorem slotIndexes_slot (index : Nat) (tokens : List Token) :
    slotIndexes (.slot index :: tokens) = index :: slotIndexes tokens := rfl

@[simp] theorem slotIndexes_name (identifier : String) (tokens : List Token) :
    slotIndexes (.name identifier :: tokens) = slotIndexes tokens := rfl

@[simp] theorem slotIndexes_word (text : String) (tokens : List Token) :
    slotIndexes (.word text :: tokens) = slotIndexes tokens := rfl

@[simp] theorem slotIndexes_operator (text : String) (tokens : List Token) :
    slotIndexes (.operator text :: tokens) = slotIndexes tokens := rfl

@[simp] theorem slotIndexes_cast (tokens : List Token) :
    slotIndexes (.cast :: tokens) = slotIndexes tokens := rfl

@[simp] theorem slotIndexes_mark (char : Char) (tokens : List Token) :
    slotIndexes (.mark char :: tokens) = slotIndexes tokens := rfl

@[simp] theorem slotIndexes_append (tokens more : List Token) :
    slotIndexes (tokens ++ more) = slotIndexes tokens ++ slotIndexes more :=
  List.filterMap_append

theorem mem_slotIndexes {tokens : List Token} {index : Nat} :
    index ∈ slotIndexes tokens ↔ .slot index ∈ tokens := by
  rw [slotIndexes, List.mem_filterMap]
  constructor
  · rintro ⟨token, htoken, hindex⟩
    cases token with
    | slot => cases hindex; exact htoken
    | _ => cases hindex
  · intro htoken
    exact ⟨_, htoken, rfl⟩

@[simp] theorem slotIndexes_slotTokens (indexes : List Nat) :
    slotIndexes (slotTokens indexes) = indexes := by
  induction indexes with
  | nil => rfl
  | cons index indexes ih =>
    cases indexes with
    | nil => rfl
    | cons next indexes =>
      simp only [slotTokens, List.map_cons] at ih
      simp [slotTokens, ih]

end Sql

/-! ### The slots of a condition -/

theorem Leaf.slotIndexes_tokens (leaf : Leaf) (start : Nat) :
    slotIndexes (leaf.tokens start) = List.range' start leaf.values.length := by
  cases leaf with
  | compare operator key operand => cases operator <;> rfl
  | member operator key first rest =>
    cases operator <;> simp [Leaf.tokens, Membership.tokens, Leaf.values]

/-- The slots of a predicate count the values of its leaves, from left to right. -/
theorem Filter.slotIndexes_tokens {f : Filter} (hf : f.isSupported = true) (start : Nat) :
    slotIndexes (f.tokens start) = List.range' start f.values.length := by
  induction f generalizing start with
  | leaf condition => exact condition.slotIndexes_tokens start
  | and left right ihl ihr =>
    obtain ⟨hleft, hright⟩ := Bool.and_eq_true_iff.mp hf
    have hrest := ihr hright (start + left.values.length)
    rw [tokens, slotIndexes_append, slotIndexes_word, ihl hleft, hrest, values, List.length_append,
      ← List.range'_append, Nat.one_mul]
  | or left right ihl ihr =>
    obtain ⟨hleft, hright⟩ := Bool.and_eq_true_iff.mp hf
    have hrest := ihr hright (start + left.values.length)
    have hinner : slotIndexes ((Filter.or left right).tokens start) =
        slotIndexes (left.tokens start) ++
          slotIndexes (right.tokens (start + left.values.length)) := by
      simp [tokens]
    rw [hinner, ihl hleft, hrest, values, List.length_append, ← List.range'_append, Nat.one_mul]
  | not inner ih => simp [tokens, values, ih hf]
  | custom | plain => cases hf

/-! ### The parts of a search -/

namespace Schema

variable (s : Schema)

def nameTokens (names : List String) : List Token := (names.map Token.name).intersperse (.mark ',')

/-- What is read of each row, and from which table. -/
def selectionTokens (distance : Distance) : List Token :=
  .word "select" :: nameTokens s.selectColumns
    ++ [.mark ',', .word distance.searchFunction, .mark '(', .name s.embeddingColumn, .mark ',',
      .slot 1, .cast, .word "vector", .mark ')', .word "as", .word "distance", .word "from",
      .name s.schema, .mark '.', .name s.table]

/-- The condition that a filter stands for, if there is one. -/
def conditionTokens : Option Filter → List Token
  | none => []
  | some filter => .word "where" :: filter.tokens 2

def orderTokens (distance : Distance) : List Token :=
  [.word "order", .word "by", .name s.embeddingColumn, .operator distance.operator, .slot 1, .cast,
    .word "vector"]

theorem tokens_nameList (names : List String) :
    (nameList names).flatMap Piece.tokens = nameTokens names := by
  have hcomma : (Piece.raw ", ").tokens = [.mark ','] := by decide
  induction names with
  | nil => rfl
  | cons name names ih =>
    cases names with
    | nil => simp [nameList, nameTokens, separated_singleton]
    | cons next names =>
      simp only [nameList, nameTokens, List.map_cons] at ih
      simp [nameList, nameTokens, separated_cons_cons, hcomma, ih]

theorem slotIndexes_nameTokens (names : List String) : slotIndexes (nameTokens names) = [] := by
  induction names with
  | nil => rfl
  | cons name names ih =>
    cases names with
    | nil => rfl
    | cons next names =>
      simp only [nameTokens, List.map_cons] at ih
      simp [nameTokens, ih]

theorem tokens_searchPieces (distance : Distance) {filter : Option Filter}
    (hfilter : ∀ f ∈ filter, f.isSupported = true) (limit : Nat) :
    (s.searchPieces distance (filter.elim [] fun filter => .raw " WHERE " :: filter.pieces 2)
        limit).flatMap Piece.tokens =
      s.selectionTokens distance ++ conditionTokens filter ++ s.orderTokens distance
        ++ [.word "limit", .slot limit] := by
  have hvector : (Piece.slot 1).tokens = [.slot 1] := rfl
  have hselect : (Piece.raw "SELECT ").tokens = [.word "select"] := by decide
  have hopen : (Piece.raw (", " ++ distance.searchFunction ++ "(")).tokens =
      [.mark ',', .word distance.searchFunction, .mark '('] := by
    cases distance <;> decide
  have hcomma : (Piece.raw ", ").tokens = [.mark ','] := by decide
  have hfrom : (Piece.raw "::vector) AS distance FROM ").tokens =
      [.cast, .word "vector", .mark ')', .word "as", .word "distance", .word "from"] := by decide
  have hdot : (Piece.raw ".").tokens = [.mark '.'] := by decide
  have horder : (Piece.raw " ORDER BY ").tokens = [.word "order", .word "by"] := by decide
  have hoperator : (Piece.raw (" " ++ distance.operator ++ " ")).tokens =
      [.operator distance.operator] := by
    cases distance <;> decide
  have hlimit : (Piece.raw "::vector LIMIT ").tokens = [.cast, .word "vector", .word "limit"] := by
    decide
  have hcondition : (filter.elim [] fun filter => .raw " WHERE " :: filter.pieces 2).flatMap
      Piece.tokens = conditionTokens filter := by
    cases filter with
    | none => rfl
    | some f =>
      have hwhere : (Piece.raw " WHERE ").tokens = [.word "where"] := by decide
      have hpieces : (f.pieces 2).flatMap Piece.tokens = f.tokens 2 :=
        f.tokens_pieces (hfilter f rfl) 2
      simp [conditionTokens, hwhere, hpieces]
  simp [searchPieces, tablePieces, selectionTokens, orderTokens, tokens_nameList, hvector,
    hselect, hopen, hcomma, hfrom, hdot, horder, hoperator, hlimit, hcondition]

theorem slotIndexes_selectionTokens (distance : Distance) :
    slotIndexes (s.selectionTokens distance) = [1] := by
  simp [selectionTokens, slotIndexes_nameTokens]

theorem slotIndexes_conditionTokens {filter : Option Filter}
    (hfilter : ∀ f ∈ filter, f.isSupported = true) :
    slotIndexes (conditionTokens filter) = List.range' 2 (filter.elim [] Filter.values).length := by
  cases filter with
  | none => rfl
  | some f =>
    rw [conditionTokens, slotIndexes_word, f.slotIndexes_tokens (hfilter f rfl)]
    rfl

/-- The slots of a search are the vector, then those of its condition from the second on, then the vector once more, then the limit as the last one; the values are bound in the same order. So exactly the indexes of the bound values occur as slots. -/
theorem lex?_search (distance : Distance) {request : SearchRequest} {vector : String}
    (hvector : formatVector request.embedding = .ok vector)
    (hfilter : ∀ f ∈ request.filter, f.isSupported = true) :
    ∃ query tokens, s.search distance request = .ok query ∧ lex? query.sql = some tokens ∧
      query.args = .text vector :: request.filter.elim [] Filter.values ++ [request.limit] ∧
      tokens = s.selectionTokens distance ++ conditionTokens request.filter
        ++ s.orderTokens distance ++ [.word "limit", .slot query.args.length] ∧
      slotIndexes (s.selectionTokens distance) = [1] ∧
      slotIndexes (conditionTokens request.filter) = List.range' 2 (query.args.length - 2) ∧
      slotIndexes (s.orderTokens distance) = [1] ∧
      ∀ index, .slot index ∈ tokens ↔ 1 ≤ index ∧ index ≤ query.args.length := by
  let values := request.filter.elim [] Filter.values
  let args := .text vector :: values ++ [request.limit]
  have hlength : args.length = values.length + 2 := by simp [args]
  have hsearch : s.search distance request = .ok ⟨s.searchPieces distance
      (request.filter.elim [] fun filter => .raw " WHERE " :: filter.pieces 2) args.length, args⟩ := by
    rw [search, hvector, filterClause_eq hfilter]
    rfl
  have hcondition : slotIndexes (conditionTokens request.filter) =
      List.range' 2 (args.length - 2) := by
    rw [slotIndexes_conditionTokens hfilter, hlength, Nat.add_sub_cancel]
  refine ⟨_, _, hsearch, ?_, rfl, rfl, s.slotIndexes_selectionTokens distance, hcondition, rfl, ?_⟩
  · rw [Query.sql, lex?_render (s.legible_search distance hfilter args.length),
      s.tokens_searchPieces distance hfilter]
  · intro index
    rw [← mem_slotIndexes]
    simp only [slotIndexes_append, s.slotIndexes_selectionTokens, hcondition, orderTokens,
      slotIndexes_word, slotIndexes_name, slotIndexes_operator, slotIndexes_slot, slotIndexes_cast,
      slotIndexes_nil, List.mem_append, List.mem_range'_1, List.mem_singleton]
    omega

/-- The name of a column that looks like a slot is none. -/
theorem lex?_search_dollar :
    let s : Schema := ⟨{ Draft.ofTable "$3" with metadataColumns := [.named "$2 = $9"] }, by decide⟩
    let f : Filter := .not (.leaf (.member .among ⟨"$2 = $9", by decide⟩ ⟨.int 7, rfl⟩ [⟨.int 8, rfl⟩]))
    ∃ request : SearchRequest, request.filter = some f ∧
      formatVector request.embedding = .ok (writeVector [1]) ∧ f.isSupported = true ∧
      ∃ query tokens, s.search .cosine request = .ok query ∧ lex? query.sql = some tokens ∧
        slotIndexes tokens = [1, 2, 3, 1, 4] ∧
        query.args = [.text (writeVector [1]), .int 7, .int 8, .int 4] := by
  intro s f
  let request : SearchRequest := ⟨.list [.float 1], .int 4, .null, some f, rfl, rfl⟩
  have hvector : formatVector request.embedding = .ok (writeVector [1]) := formatVector_list [1]
  have hfilter : ∀ g ∈ request.filter, g.isSupported = true := by
    intro g hg
    cases hg
    rfl
  obtain ⟨query, tokens, hsearch, htokens, hargs, hall, hfirst, hcondition, horder, -⟩ :=
    s.lex?_search .cosine hvector hfilter
  refine ⟨request, rfl, hvector, rfl, query, tokens, hsearch, htokens, ?_, hargs⟩
  rw [hargs] at hall hcondition
  rw [hall, slotIndexes_append, slotIndexes_append, slotIndexes_append, hfirst, hcondition, horder]
  rfl

end Schema

end VectorTable
