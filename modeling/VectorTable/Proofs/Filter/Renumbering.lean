import VectorTable.Proofs.Filter.Composition
import VectorTable.Proofs.Sql.Text

/-!
# The text of a predicate, part by part

The text of a predicate is described by recursion on the filter: the text of a part is the same wherever the part stands, except that its slots are counted on from the values to its left. Counting from another index moves every slot by the same amount and changes nothing else.
-/

namespace VectorTable

open Sql

/-! ### Texts -/

/-- Indexes from `start` on, one after the other. -/
def indexesFrom (start : Int) (count : Nat) : List Int :=
  (List.range count).map fun position : Nat => start + position

def slotListText (start : Int) (count : Nat) : String :=
  String.intercalate ", " ((indexesFrom start count).map slotText)

/-- The text of a comparison of the column `name` with the value in `slot`. -/
def Comparison.text (name slot : String) : Comparison → String
  | equal => name ++ " IS NOT NULL AND " ++ name ++ " = " ++ slot
  | notEqual => "(" ++ name ++ " IS NULL OR " ++ name ++ " != " ++ slot ++ ")"
  | greater => name ++ " > " ++ slot
  | greaterOrEqual => name ++ " >= " ++ slot
  | less => name ++ " < " ++ slot
  | lessOrEqual => name ++ " <= " ++ slot

def Membership.text (name slots : String) : Membership → String
  | among => name ++ " IN (" ++ slots ++ ")"
  | notAmong => "(" ++ name ++ " IS NULL OR " ++ name ++ " NOT IN (" ++ slots ++ "))"

def Leaf.text (start : Int) : Leaf → String
  | compare operator key _ => operator.text (quoteName key.text) (slotText start)
  | member operator key _ rest =>
    operator.text (quoteName key.text) (slotListText start (rest.length + 1))

/-- The text of the predicate of a filter whose first slot has the index `start`. -/
def Filter.text : Filter → Int → String
  | leaf condition, start => condition.text start
  | and left right, start =>
    left.text start ++ " AND " ++ right.text (start + left.values.length)
  | or left right, start =>
    "(" ++ left.text start ++ " OR " ++ right.text (start + left.values.length) ++ ")"
  | not inner, start => "NOT(" ++ inner.text start ++ ")"
  | custom .., _ | plain _, _ => ""

/-- The leaves of a filter, from left to right. -/
def Filter.leaves : Filter → List Leaf
  | leaf condition => [condition]
  | and left right | or left right => left.leaves ++ right.leaves
  | not inner => inner.leaves
  | custom .. | plain _ => []

theorem Filter.values_eq_flatMap (f : Filter) : f.values = f.leaves.flatMap Leaf.values := by
  induction f with
  | leaf condition => simp [values, leaves]
  | and left right ihl ihr | or left right ihl ihr => simp [values, leaves, ihl, ihr]
  | not inner ih => exact ih
  | custom | plain => rfl

theorem indexesFrom_add (start : Int) (first more : Nat) :
    indexesFrom start (first + more) =
      indexesFrom start first ++ indexesFrom (start + first) more := by
  simp [indexesFrom, List.range_add, Int.add_assoc]

theorem slotsFrom_eq_map (start : Int) (count : Nat) :
    slotsFrom start count = (indexesFrom start count).map Piece.slot := by
  induction count generalizing start with
  | zero => rfl
  | succ count ih =>
    rw [slotsFrom, ih, Nat.add_comm, indexesFrom_add]
    simp [indexesFrom]

theorem render_slotsFrom (start : Int) (count : Nat) :
    render (separated ", " ((slotsFrom start count).map fun slot => [slot])) =
      slotListText start count := by
  have hslot : ∀ index : Int, render [.slot index] = slotText index := by
    intro index
    simp
  simp only [render_separated, slotsFrom_eq_map, List.map_map, slotListText, Function.comp_def,
    hslot]

theorem Leaf.render_pieces (leaf : Leaf) (start : Int) :
    render (leaf.pieces start) = leaf.text start := by
  cases leaf with
  | compare operator key operand =>
    cases operator <;>
      simp [Leaf.pieces, Leaf.text, Comparison.pieces, Comparison.text, Comparison.sign,
        String.append_assoc]
  | member operator key first rest =>
    cases operator <;>
      simp [Leaf.pieces, Leaf.text, Membership.pieces, Membership.text, render_slotsFrom,
        String.append_assoc]

namespace Filter

theorem render_pieces {f : Filter} (hf : f.isSupported = true) (start : Int) :
    render (f.pieces start) = f.text start := by
  induction f generalizing start with
  | leaf condition => exact condition.render_pieces start
  | and left right ihl ihr | or left right ihl ihr =>
    obtain ⟨hleft, hright⟩ := Bool.and_eq_true_iff.mp hf
    simp [pieces, text, ihl hleft, ihr hright, String.append_assoc]
  | not inner ih => simp [pieces, text, ih hf, String.append_assoc]
  | custom | plain => cases hf

end Filter

/-! ### Counting from another index -/

/-- A piece with its slot moved on. -/
def Sql.Piece.shift (offset : Int) : Piece → Piece
  | raw text => raw text
  | name identifier => name identifier
  | slot index => slot (index + offset)

theorem slotsFrom_add (start offset : Int) (count : Nat) :
    slotsFrom (start + offset) count = (slotsFrom start count).map (Piece.shift offset) := by
  simp [slotsFrom_eq_map, indexesFrom, Piece.shift, Int.add_right_comm]

theorem map_shift_separated (offset : Int) (separator : String) (groups : List (List Piece)) :
    (separated separator groups).map (Piece.shift offset) =
      separated separator (groups.map (List.map (Piece.shift offset))) := by
  induction groups with
  | nil => rfl
  | cons group groups ih =>
    cases groups with
    | nil => simp [separated_singleton]
    | cons next groups =>
      simp only [List.map_cons] at ih
      simp [separated_cons_cons, ih, Piece.shift]

theorem Leaf.pieces_add (leaf : Leaf) (start offset : Int) :
    leaf.pieces (start + offset) = (leaf.pieces start).map (Piece.shift offset) := by
  cases leaf with
  | compare operator key operand =>
    cases operator <;> simp [Leaf.pieces, Comparison.pieces, Piece.shift]
  | member operator key first rest =>
    have hslots := map_shift_separated offset ", "
      ((slotsFrom start (rest.length + 1)).map fun slot => [slot])
    rw [List.map_map] at hslots
    cases operator <;>
      simp [Leaf.pieces, Membership.pieces, Piece.shift, slotsFrom_add, hslots, Function.comp_def]

namespace Filter

theorem pieces_add (f : Filter) (start offset : Int) :
    f.pieces (start + offset) = (f.pieces start).map (Piece.shift offset) := by
  induction f generalizing start with
  | leaf condition => exact condition.pieces_add start offset
  | and left right ihl ihr | or left right ihl ihr =>
    have hright := ihr (start + left.values.length)
    rw [Int.add_right_comm] at hright
    simp [pieces, ihl, hright, Piece.shift]
  | not inner ih => simp [pieces, ih, Piece.shift]
  | custom | plain => rfl

end Filter

/-! ### Slots in order -/

namespace Sql

/-- The indexes of the slots among pieces, in order. -/
def pieceIndexes : List Piece → List Int
  | [] => []
  | .slot index :: pieces => index :: pieceIndexes pieces
  | .raw _ :: pieces | .name _ :: pieces => pieceIndexes pieces

@[simp] theorem pieceIndexes_nil : pieceIndexes [] = [] := rfl

@[simp] theorem pieceIndexes_slot (index : Int) (pieces : List Piece) :
    pieceIndexes (.slot index :: pieces) = index :: pieceIndexes pieces := rfl

@[simp] theorem pieceIndexes_raw (text : String) (pieces : List Piece) :
    pieceIndexes (.raw text :: pieces) = pieceIndexes pieces := rfl

@[simp] theorem pieceIndexes_name (identifier : String) (pieces : List Piece) :
    pieceIndexes (.name identifier :: pieces) = pieceIndexes pieces := rfl

@[simp] theorem pieceIndexes_append (pieces more : List Piece) :
    pieceIndexes (pieces ++ more) = pieceIndexes pieces ++ pieceIndexes more := by
  induction pieces with
  | nil => rfl
  | cons p pieces ih => cases p <;> simp [ih]

end Sql

theorem pieceIndexes_slotsFrom (start : Int) (count : Nat) :
    pieceIndexes (separated ", " ((slotsFrom start count).map fun slot => [slot])) =
      indexesFrom start count := by
  rw [slotsFrom_eq_map]
  induction indexesFrom start count with
  | nil => rfl
  | cons index indexes ih =>
    cases indexes with
    | nil => simp [separated_singleton]
    | cons next indexes =>
      simp only [List.map_cons] at ih ⊢
      rw [separated_cons_cons, pieceIndexes_append, pieceIndexes_raw, ih]
      rfl

theorem Leaf.pieceIndexes_pieces (leaf : Leaf) (start : Int) :
    pieceIndexes (leaf.pieces start) = indexesFrom start leaf.values.length := by
  cases leaf with
  | compare operator key operand =>
    cases operator <;> simp [Leaf.pieces, Comparison.pieces, Leaf.values, indexesFrom]
  | member operator key first rest =>
    cases operator <;>
      simp [Leaf.pieces, Membership.pieces, Leaf.values, pieceIndexes_slotsFrom]

/-- The slots of a predicate count the values of its leaves, from left to right. -/
theorem Filter.pieceIndexes_pieces (f : Filter) (start : Int) :
    pieceIndexes (f.pieces start) = indexesFrom start f.values.length := by
  induction f generalizing start with
  | leaf condition => exact condition.pieceIndexes_pieces start
  | and left right ihl ihr | or left right ihl ihr =>
    simp [pieces, values, ihl, ihr, indexesFrom_add]
  | not inner ih => simp [pieces, values, ih]
  | custom | plain => rfl

/-! ### Parts of a filter -/

/-- A filter stands in another one, with the given values to its left. -/
inductive Filter.StandsIn (f : Filter) : Filter → List Value → Prop
  | whole : f.StandsIn f []
  | andLeft {left right : Filter} {before : List Value} (h : f.StandsIn left before) :
    f.StandsIn (and left right) before
  | andRight {left right : Filter} {before : List Value} (h : f.StandsIn right before) :
    f.StandsIn (and left right) (left.values ++ before)
  | orLeft {left right : Filter} {before : List Value} (h : f.StandsIn left before) :
    f.StandsIn (or left right) before
  | orRight {left right : Filter} {before : List Value} (h : f.StandsIn right before) :
    f.StandsIn (or left right) (left.values ++ before)
  | not {inner : Filter} {before : List Value} (h : f.StandsIn inner before) :
    f.StandsIn (not inner) before

namespace Filter

/-- The predicate of a part stands in the predicate of the whole, counted on from the slots in front of it, of which there is one for each value to its left. -/
theorem exists_pieces_of_standsIn {f g : Filter} {before : List Value} (h : f.StandsIn g before)
    (start : Int) :
    ∃ front back after, g.pieces start = front ++ f.pieces (start + before.length) ++ back ∧
      pieceIndexes front = indexesFrom start before.length ∧
      g.values = before ++ f.values ++ after := by
  induction h generalizing start with
  | whole => exact ⟨[], [], [], by simp, rfl, by simp⟩
  | @andLeft left right before _ ih =>
    obtain ⟨front, back, after, hpieces, hfront, hvalues⟩ := ih start
    refine ⟨front, back ++ .raw " AND " :: right.pieces (start + left.values.length),
      after ++ right.values, ?_, hfront, ?_⟩
    · simp [pieces, hpieces]
    · simp [values, hvalues]
  | @andRight left right before _ ih =>
    -- All slots of the left part are given out before those in front of the part.
    obtain ⟨front, back, after, hpieces, hfront, hvalues⟩ := ih (start + left.values.length)
    refine ⟨left.pieces start ++ .raw " AND " :: front, back, after, ?_, ?_, ?_⟩
    · simp [pieces, hpieces, Int.add_assoc]
    · simp [pieceIndexes_pieces, hfront, indexesFrom_add]
    · simp [values, hvalues]
  | @orLeft left right before _ ih =>
    obtain ⟨front, back, after, hpieces, hfront, hvalues⟩ := ih start
    refine ⟨.raw "(" :: front,
      back ++ .raw " OR " :: right.pieces (start + left.values.length) ++ [.raw ")"],
      after ++ right.values, ?_, hfront, ?_⟩
    · simp [pieces, hpieces]
    · simp [values, hvalues]
  | @orRight left right before _ ih =>
    obtain ⟨front, back, after, hpieces, hfront, hvalues⟩ := ih (start + left.values.length)
    refine ⟨.raw "(" :: left.pieces start ++ .raw " OR " :: front, back ++ [.raw ")"], after,
      ?_, ?_, ?_⟩
    · simp [pieces, hpieces, Int.add_assoc]
    · simp [pieceIndexes_pieces, hfront, indexesFrom_add]
    · simp [values, hvalues]
  | not _ ih =>
    obtain ⟨front, back, after, hpieces, hfront, hvalues⟩ := ih start
    refine ⟨.raw "NOT(" :: front, back ++ [.raw ")"], after, ?_, hfront, ?_⟩
    · simp [pieces, hpieces]
    · simp [values, hvalues]

end Filter

end VectorTable
