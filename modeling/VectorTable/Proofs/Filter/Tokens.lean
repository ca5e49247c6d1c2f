import VectorTable.Proofs.Filter.Composition
import VectorTable.Proofs.Sql.Lexing

/-!
# The tokens of a predicate

The database reads a predicate token by token. Every key is one quoted name wherever it stands, every value is a slot, and all other tokens are fixed by the shape of the filter.
-/

namespace VectorTable

open Sql

def Comparison.tokens (operator : Comparison) (key : String) (index : Nat) : List Token :=
  match operator with
  | .equal =>
    [.name key, .word "is", .word "not", .word "null", .word "and",
      .name key, .operator "=", .slot index]
  | .notEqual =>
    [.mark '(', .name key, .word "is", .word "null", .word "or",
      .name key, .operator "!=", .slot index, .mark ')']
  | ordering => [.name key, .operator ordering.sign, .slot index]

def Membership.tokens (operator : Membership) (key : String) (indexes : List Nat) : List Token :=
  match operator with
  | .among => .name key :: .word "in" :: .mark '(' :: slotTokens indexes ++ [.mark ')']
  | .notAmong =>
    .mark '(' :: ([.name key, .word "is", .word "null"] ++ .word "or" ::
      (.name key :: .word "not" :: .word "in" :: .mark '(' :: slotTokens indexes ++ [.mark ')']))
      ++ [.mark ')']

def Leaf.tokens (leaf : Leaf) (start : Nat) : List Token :=
  match leaf with
  | .compare operator key _ => operator.tokens key.text start
  | .member operator key _ rest => operator.tokens key.text (List.range' start (rest.length + 1))

/-- The tokens of the predicate of a filter whose first slot has the index `start`. -/
def Filter.tokens : Filter → Nat → List Token
  | leaf condition, start => condition.tokens start
  | and left right, start =>
    left.tokens start ++ .word "and" :: right.tokens (start + left.values.length)
  | or left right, start =>
    .mark '(' :: (left.tokens start ++ .word "or" :: right.tokens (start + left.values.length))
      ++ [.mark ')']
  | not inner, start => .word "not" :: .mark '(' :: inner.tokens start ++ [.mark ')']
  | custom .., _ | plain _, _ => []

/-! ### Leaves -/

theorem Comparison.legible_pieces (operator : Comparison) (key : Key) (index : Nat) :
    Legible (operator.pieces key (.slot index)) := by
  have hkey : Legible [.name key.text] := legible_singleton rfl
  have hslot : Legible [.slot (index : Int)] := legible_singleton (by simp [Piece.readable])
  cases operator with
  | equal =>
    exact hkey.glue (by decide : (Piece.raw " IS NOT NULL AND ").isGlue = true)
      (hkey.glue (by decide : (Piece.raw " = ").isGlue = true) hslot)
  | notEqual =>
    have hinner := hkey.glue (by decide : (Piece.raw " IS NULL OR ").isGlue = true)
      (hkey.glue (by decide : (Piece.raw " != ").isGlue = true) hslot)
    have hclosed := hinner.concat
      (by decide : ((Piece.raw ")").readable && (Piece.raw ")").beginsApart) = true)
    exact hclosed.cons (by decide : ((Piece.raw "(").readable && (Piece.raw "(").endsApart) = true)
  | greater => exact hkey.glue (by decide) hslot
  | greaterOrEqual => exact hkey.glue (by decide) hslot
  | less => exact hkey.glue (by decide) hslot
  | lessOrEqual => exact hkey.glue (by decide) hslot

theorem Comparison.tokens_pieces (operator : Comparison) (key : Key) (index : Nat) :
    (operator.pieces key (.slot index)).flatMap Piece.tokens = operator.tokens key.text index := by
  have hnotNull : (Piece.raw " IS NOT NULL AND ").tokens =
      [.word "is", .word "not", .word "null", .word "and"] := by decide
  have hnull : (Piece.raw " IS NULL OR ").tokens = [.word "is", .word "null", .word "or"] := by
    decide
  have hopen : (Piece.raw "(").tokens = [.mark '('] := by decide
  have hclose : (Piece.raw ")").tokens = [.mark ')'] := by decide
  have hsign : ∀ operator : Comparison,
      (Piece.raw (" " ++ operator.sign ++ " ")).tokens = [.operator operator.sign] := by
    intro operator
    cases operator <;> decide
  have hequal : (Piece.raw " = ").tokens = [.operator "="] := hsign .equal
  have hnotEqual : (Piece.raw " != ").tokens = [.operator "!="] := hsign .notEqual
  cases operator <;>
    simp [Comparison.pieces, Comparison.tokens, hnotNull, hnull, hopen, hclose, hsign, hequal,
      hnotEqual]

theorem legible_slotsFrom (start count : Nat) :
    ∀ group ∈ (slotsFrom start count).map fun slot => [slot], Legible group := by
  induction count generalizing start with
  | zero => simp [slotsFrom]
  | succ count ih =>
    intro group hgroup
    rcases List.mem_cons.mp hgroup with rfl | hgroup
    · exact legible_singleton (by simp [Piece.readable])
    · exact ih (start + 1) group hgroup

theorem Membership.legible_pieces (operator : Membership) (key : Key) (start count : Nat) :
    Legible (operator.pieces key (slotsFrom start count)) := by
  have hkey : Legible [.name key.text] := legible_singleton rfl
  have hslots : Legible (separated ", " ((slotsFrom start count).map fun slot => [slot])) :=
    legible_separated (by decide) (legible_slotsFrom start count)
  cases operator with
  | among =>
    have hlist := hkey.glue (by decide : (Piece.raw " IN (").isGlue = true) hslots
    exact hlist.concat (by decide : ((Piece.raw ")").readable && (Piece.raw ")").beginsApart) = true)
  | notAmong =>
    have hlist := hkey.glue (by decide : (Piece.raw " IS NULL OR ").isGlue = true)
      (hkey.glue (by decide : (Piece.raw " NOT IN (").isGlue = true) hslots)
    have hclosed := hlist.concat
      (by decide : ((Piece.raw "))").readable && (Piece.raw "))").beginsApart) = true)
    exact hclosed.cons (by decide : ((Piece.raw "(").readable && (Piece.raw "(").endsApart) = true)

theorem tokens_slotsFrom (start count : Nat) :
    (separated ", " ((slotsFrom start count).map fun slot => [slot])).flatMap Piece.tokens =
      slotTokens (List.range' start count) := by
  induction count generalizing start with
  | zero => simp [slotsFrom, separated, slotTokens]
  | succ count ih =>
    cases count with
    | zero => simp [slotsFrom, separated_singleton, slotTokens]
    | succ count =>
      have hcomma : (Piece.raw ", ").tokens = [.mark ','] := by decide
      have hrest := ih (start + 1)
      simp only [slotsFrom, List.map_cons, slotTokens, List.range'_succ, Int.natCast_add,
        Int.natCast_one] at hrest
      simp [slotsFrom, separated_cons_cons, slotTokens, List.range'_succ, hcomma, hrest]

theorem Membership.tokens_pieces (operator : Membership) (key : Key) (start count : Nat) :
    (operator.pieces key (slotsFrom start count)).flatMap Piece.tokens =
      operator.tokens key.text (List.range' start count) := by
  have hnull : (Piece.raw " IS NULL OR ").tokens = [.word "is", .word "null", .word "or"] := by
    decide
  have hin : (Piece.raw " IN (").tokens = [.word "in", .mark '('] := by decide
  have hnotIn : (Piece.raw " NOT IN (").tokens = [.word "not", .word "in", .mark '('] := by decide
  have hopen : (Piece.raw "(").tokens = [.mark '('] := by decide
  have hclose : (Piece.raw ")").tokens = [.mark ')'] := by decide
  have hcloseBoth : (Piece.raw "))").tokens = [.mark ')', .mark ')'] := by decide
  cases operator <;>
    simp [Membership.pieces, Membership.tokens, tokens_slotsFrom, hnull, hin, hnotIn, hopen, hclose,
      hcloseBoth]

theorem Leaf.legible_pieces (leaf : Leaf) (start : Nat) : Legible (leaf.pieces start) := by
  cases leaf with
  | compare operator key operand => exact operator.legible_pieces key start
  | member operator key first rest => exact operator.legible_pieces key start (rest.length + 1)

theorem Leaf.tokens_pieces (leaf : Leaf) (start : Nat) :
    (leaf.pieces start).flatMap Piece.tokens = leaf.tokens start := by
  cases leaf with
  | compare operator key operand => exact operator.tokens_pieces key start
  | member operator key first rest => exact operator.tokens_pieces key start (rest.length + 1)

/-! ### Trees -/

namespace Filter

theorem legible_pieces {f : Filter} (hf : f.isSupported = true) (start : Nat) :
    Legible (f.pieces start) := by
  have hopen : ∀ text ∈ ["(", "NOT("], ((Piece.raw text).readable && (Piece.raw text).endsApart) =
      true := by decide
  have hclose : ((Piece.raw ")").readable && (Piece.raw ")").beginsApart) = true := by decide
  induction f generalizing start with
  | leaf condition => exact condition.legible_pieces start
  | and left right ihl ihr =>
    obtain ⟨hleft, hright⟩ := Bool.and_eq_true_iff.mp hf
    exact (ihl hleft start).glue (by decide) (ihr hright (start + left.values.length))
  | or left right ihl ihr =>
    obtain ⟨hleft, hright⟩ := Bool.and_eq_true_iff.mp hf
    have hinner := (ihl hleft start).glue (by decide : (Piece.raw " OR ").isGlue = true)
      (ihr hright (start + left.values.length))
    exact (hinner.concat hclose).cons (hopen "(" (by decide))
  | not inner ih => exact ((ih hf start).concat hclose).cons (hopen "NOT(" (by decide))
  | custom | plain => cases hf

theorem tokens_pieces {f : Filter} (hf : f.isSupported = true) (start : Nat) :
    (f.pieces start).flatMap Piece.tokens = f.tokens start := by
  have hand : (Piece.raw " AND ").tokens = [.word "and"] := by decide
  have hor : (Piece.raw " OR ").tokens = [.word "or"] := by decide
  have hopen : (Piece.raw "(").tokens = [.mark '('] := by decide
  have hnot : (Piece.raw "NOT(").tokens = [.word "not", .mark '('] := by decide
  have hclose : (Piece.raw ")").tokens = [.mark ')'] := by decide
  induction f generalizing start with
  | leaf condition => exact condition.tokens_pieces start
  | and left right ihl ihr =>
    obtain ⟨hleft, hright⟩ := Bool.and_eq_true_iff.mp hf
    have hrest := ihr hright (start + left.values.length)
    rw [Int.natCast_add] at hrest
    simp [pieces, tokens, ihl hleft, hrest, hand]
  | or left right ihl ihr =>
    obtain ⟨hleft, hright⟩ := Bool.and_eq_true_iff.mp hf
    have hrest := ihr hright (start + left.values.length)
    rw [Int.natCast_add] at hrest
    simp [pieces, tokens, ihl hleft, hrest, hopen, hor, hclose]
  | not inner ih => simp [pieces, tokens, ih hf, hnot, hclose]
  | custom | plain => cases hf

theorem lex?_pieces {f : Filter} (hf : f.isSupported = true) (start : Nat) :
    lex? (render (f.pieces start)) = some (f.tokens start) := by
  rw [lex?_render (legible_pieces hf start), tokens_pieces hf]

end Filter

end VectorTable
