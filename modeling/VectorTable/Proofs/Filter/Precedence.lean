import VectorTable.Proofs.Filter.Tokens
import VectorTable.Proofs.Sql.Parsing

/-!
# What a predicate means to the database

A filter has a truth value on every row, read off its tree. The text of its predicate is parsed by the database, whose operators have a precedence of their own, and evaluated there. The two agree for every filter, row and first index, although conjunctions stand without parentheses: every part of a predicate is text that means the same wherever an operand of a conjunction may stand.
-/

namespace VectorTable

open Sql

/-! ### The truth of a filter on a row -/

def Comparison.truthOfMissing : Comparison → Truth
  | equal => .no
  | notEqual => .yes
  | _ => .unknown

def Membership.truthOfMissing : Membership → Truth
  | among => .unknown
  | notAmong => .yes

def Membership.holds : Membership → (found : Bool) → Bool
  | among, found => found
  | notAmong, found => !found

def Leaf.truth (c : Comparing) (row : String → Value) : Leaf → Truth
  | compare operator key operand =>
    if (row key.text).isNull then operator.truthOfMissing
    else .ofBool (c.holds operator (row key.text) operand.value)
  | member operator key first rest =>
    if (row key.text).isNull then operator.truthOfMissing
    else .ofBool (operator.holds
      ((first :: rest).any fun operand => c.equal (row key.text) operand.value))

/-- The truth of a filter on a row. A filter with a node that no statement can express has none. -/
def Filter.truth? (c : Comparing) (row : String → Value) : Filter → Option Truth
  | leaf condition => some (condition.truth c row)
  | and left right => do return (← left.truth? c row).and (← right.truth? c row)
  | or left right => do return (← left.truth? c row).or (← right.truth? c row)
  | not inner => do return (← inner.truth? c row).not
  | custom .. | plain _ => none

/-! ### Values in slots -/

theorem values?_slots {s : Situation} {start : Nat} {values : List Value}
    (h : HoldsFrom s.slot start values) :
    Expression.values? s ((List.range' start values.length).map Expression.slot) = some values := by
  induction values generalizing start with
  | nil => simp [Expression.values?]
  | cons value values ih =>
    have happend : HoldsFrom s.slot start ([value] ++ values) := h
    have hrest : HoldsFrom s.slot (start + 1) values := happend.right
    simp [List.range'_succ, Expression.values?, Expression.value?, h.head, ih hrest]

/-- The values bound to slots from `start` on. -/
def boundFrom (start : Nat) (values : List Value) (index : Nat) : Option Value :=
  if start ≤ index then values[index - start]? else none

theorem holdsFrom_boundFrom (start : Nat) (values : List Value) :
    HoldsFrom (boundFrom start values) start values := by
  intro position value hvalue
  rw [boundFrom, if_pos (Nat.le_add_right _ _), Nat.add_sub_cancel_left, hvalue]

/-! ### Leaves -/

theorem truth?_isNull (s : Situation) (column : String) :
    (Expression.isNull (.column column)).truth? s = some (.ofBool (s.column column).isNull) := by
  simp [Expression.truth?, Expression.value?]

theorem truth?_compare {s : Situation} {index : Nat} {value : Value}
    (hslot : s.slot index = some value) (operator : Comparison) (column : String) :
    (Expression.compare operator (.column column) (.slot index)).truth? s =
      some (s.comparing.compare operator (s.column column) value) := by
  simp [Expression.truth?, Expression.value?, hslot]

theorem truth?_among {s : Situation} {start : Nat} {values : List Value}
    (h : HoldsFrom s.slot start values) (column : String) :
    (Expression.among (.column column)
        ((List.range' start values.length).map Expression.slot)).truth? s =
      some (s.comparing.among (s.column column) values) := by
  simp [Expression.truth?, Expression.value?, values?_slots h]

theorem Comparison.exists_parsesTo {s : Situation} {start : Nat} (operator : Comparison)
    (key : Key) (operand : Operand) (hslot : s.slot start = some operand.value) :
    ∃ e, ParsesTo (operator.tokens key.text start) e ∧
      e.truth? s = some ((Leaf.compare operator key operand).truth s.comparing s.column) := by
  have hcompare := truth?_compare hslot
  have hmissing : ∀ operator, (s.column key.text).isNull = true →
      s.comparing.compare operator (s.column key.text) operand.value = .unknown := fun operator h =>
    s.comparing.compare_of_isNull operator h operand.value
  have hpresent : ∀ operator, (s.column key.text).isNull = false →
      s.comparing.compare operator (s.column key.text) operand.value =
        .ofBool (s.comparing.holds operator (s.column key.text) operand.value) := fun operator h =>
    s.comparing.compare_of_not_isNull operator h operand.notNull
  cases operator with
  | equal =>
    -- On a null the guard is false, and the conjunction with the unknown comparison is too.
    have hnotNull : ParsesTo [.name key.text, .word "is", .word "not", .word "null"]
        (.not (.isNull (.column key.text))) := parsesTo_isNull true key.text
    refine ⟨_, hnotNull.and (parsesTo_compare rfl key.text start), ?_⟩
    rw [Expression.truth?_and, Expression.truth?_not, truth?_isNull, hcompare, Leaf.truth]
    cases h : (s.column key.text).isNull with
    | true => simp [truthOfMissing]
    | false => simp [hpresent equal h]
  | notEqual =>
    -- On a null the guard is true, and the disjunction with the unknown comparison is too.
    have hnull : ParsesTo [.name key.text, .word "is", .word "null"]
        (.isNull (.column key.text)) := parsesTo_isNull false key.text
    refine ⟨_, hnull.or (parsesTo_compare rfl key.text start), ?_⟩
    rw [Expression.truth?_or, truth?_isNull, hcompare, Leaf.truth]
    cases h : (s.column key.text).isNull with
    | true => simp [truthOfMissing]
    | false => simp [hpresent notEqual h]
  | greater | greaterOrEqual | less | lessOrEqual =>
    -- Nothing guards an ordering, so a null leaves it unknown.
    refine ⟨_, parsesTo_compare rfl key.text start, ?_⟩
    rw [hcompare, Leaf.truth]
    cases h : (s.column key.text).isNull with
    | true => simp [hmissing _ h, truthOfMissing]
    | false => simp [hpresent _ h]

theorem Membership.exists_parsesTo {s : Situation} {start : Nat} (operator : Membership)
    (key : Key) (first : Operand) (rest : List Operand)
    (hslots : HoldsFrom s.slot start ((first :: rest).map Operand.value)) :
    ∃ e, ParsesTo (operator.tokens key.text (List.range' start (rest.length + 1))) e ∧
      e.truth? s = some ((Leaf.member operator key first rest).truth s.comparing s.column) := by
  have hamong := truth?_among hslots key.text
  rw [List.length_map, List.length_cons, List.range'_succ] at hamong
  have hmissing : (s.column key.text).isNull = true →
      s.comparing.among (s.column key.text) ((first :: rest).map Operand.value) = .unknown :=
    fun h => s.comparing.among_of_isNull h first.value (rest.map Operand.value)
  have hpresent : (s.column key.text).isNull = false →
      s.comparing.among (s.column key.text) ((first :: rest).map Operand.value) =
        .ofBool ((first :: rest).any fun operand =>
          s.comparing.equal (s.column key.text) operand.value) := by
    intro h
    have hnull : ∀ item ∈ (first :: rest).map Operand.value, item.isNull = false := by
      intro item hitem
      obtain ⟨operand, -, rfl⟩ := List.mem_map.mp hitem
      exact operand.notNull
    rw [s.comparing.among_of_not_isNull h hnull, List.any_map]
    rfl
  rw [List.range'_succ]
  cases operator with
  | among =>
    refine ⟨.among _ _, parsesTo_among false key.text start _, ?_⟩
    rw [hamong, Leaf.truth]
    cases h : (s.column key.text).isNull with
    | true => rw [hmissing h, if_pos rfl, truthOfMissing]
    | false => rw [hpresent h, if_neg Bool.false_ne_true, holds]
  | notAmong =>
    refine ⟨.or (.isNull _) (.not (.among _ _)),
      (parsesTo_isNull false key.text).or (parsesTo_among true key.text start _), ?_⟩
    rw [Expression.truth?_or, Expression.truth?_not, truth?_isNull, hamong, Leaf.truth]
    cases h : (s.column key.text).isNull with
    | true => simp [truthOfMissing]
    | false =>
      rw [hpresent h, if_neg Bool.false_ne_true, holds, ← Truth.not_ofBool]
      simp only [Truth.ofBool_false, Option.bind_eq_bind, Option.bind_some, Option.pure_def,
        Truth.no_or]

theorem Leaf.exists_parsesTo {s : Situation} {start : Nat} (leaf : Leaf)
    (hslots : HoldsFrom s.slot start leaf.values) :
    ∃ e, ParsesTo (leaf.tokens start) e ∧
      e.truth? s = some (leaf.truth s.comparing s.column) := by
  cases leaf with
  | compare operator key operand => exact operator.exists_parsesTo key operand hslots.head
  | member operator key first rest => exact operator.exists_parsesTo key first rest hslots

/-! ### Trees -/

namespace Filter

theorem exists_parsesTo {f : Filter} (hf : f.isSupported = true) {s : Situation} {start : Nat}
    (hslots : HoldsFrom s.slot start f.values) :
    ∃ e, ParsesTo (f.tokens start) e ∧ e.truth? s = f.truth? s.comparing s.column := by
  -- The slots on the right are numbered after those on the left, so the start is not fixed.
  induction f generalizing start with
  | leaf condition => exact condition.exists_parsesTo hslots
  | and left right ihl ihr =>
    obtain ⟨hleft, hright⟩ := Bool.and_eq_true_iff.mp hf
    obtain ⟨d, hd, hdtruth⟩ := ihl hleft hslots.left
    obtain ⟨e, he, hetruth⟩ := ihr hright hslots.right
    refine ⟨.and d e, hd.and he, ?_⟩
    rw [Expression.truth?_and, hdtruth, hetruth, truth?]
  | or left right ihl ihr =>
    obtain ⟨hleft, hright⟩ := Bool.and_eq_true_iff.mp hf
    obtain ⟨d, hd, hdtruth⟩ := ihl hleft hslots.left
    obtain ⟨e, he, hetruth⟩ := ihr hright hslots.right
    refine ⟨.or d e, hd.or he, ?_⟩
    rw [Expression.truth?_or, hdtruth, hetruth, truth?]
  | not inner ih =>
    obtain ⟨d, hd, hdtruth⟩ := ih hf hslots
    refine ⟨.not d, hd.not, ?_⟩
    rw [Expression.truth?_not, hdtruth, truth?]
  | custom | plain => cases hf

theorem exists_truth? {f : Filter} (hf : f.isSupported = true) (c : Comparing)
    (row : String → Value) : ∃ t, f.truth? c row = some t := by
  induction f with
  | leaf condition => exact ⟨_, rfl⟩
  | and left right ihl ihr | or left right ihl ihr =>
    obtain ⟨hleft, hright⟩ := Bool.and_eq_true_iff.mp hf
    obtain ⟨t, ht⟩ := ihl hleft
    obtain ⟨u, hu⟩ := ihr hright
    rw [truth?, ht, hu]
    exact ⟨_, rfl⟩
  | not inner ih =>
    obtain ⟨t, ht⟩ := ih hf
    rw [truth?, ht]
    exact ⟨_, rfl⟩
  | custom | plain => cases hf

/-- The predicate of a filter is true, false or unknown to the database on exactly the rows on which the filter is. -/
theorem truth?_parse?_predicate {f : Filter} (hf : f.isSupported = true) {start : Int}
    (hstart : 1 ≤ start) (c : Comparing) (row : String → Value) :
    ∃ p e t, f.predicate start = .ok p ∧ parse? p.sql = some e ∧
      e.truth? ⟨c, row, boundFrom start.toNat p.values⟩ = some t ∧ f.truth? c row = some t := by
  obtain ⟨first, rfl⟩ := Int.eq_ofNat_of_zero_le (Int.le_trans (by decide) hstart)
  obtain ⟨d, hparses, hd⟩ := f.exists_parsesTo hf (s := ⟨c, row, boundFrom first f.values⟩)
    (holdsFrom_boundFrom first f.values)
  obtain ⟨e, hparse, hsame⟩ := exists_parse?_of_parsesTo (lex?_pieces hf first) hparses
  obtain ⟨t, ht⟩ := exists_truth? hf c row
  refine ⟨_, e, t, predicate_eq hf first, hparse, ?_, ht⟩
  have hvalue := hsame ⟨c, row, boundFrom first f.values⟩
  rw [← ht, ← hd]
  exact congrArg (·.bind Truth.ofValue?) hvalue

theorem truth?_parse?_predicate_missing :
    let equal := leaf (.compare .equal ⟨"a\" AND \"b", by decide⟩ ⟨.int 1, rfl⟩)
    let among := leaf (.member .among ⟨"c", by decide⟩ ⟨.int 2, rfl⟩ [⟨.int 3, rfl⟩])
    let f := not (and equal (or among (not equal)))
    let c : Comparing := ⟨Value.same, Value.same, Value.same, Value.same, Value.same⟩
    f.isSupported = true ∧ (1 : Int) ≤ 4 ∧
      ∃ p e, f.predicate 4 = .ok p ∧ parse? p.sql = some e ∧
        e.truth? ⟨c, fun _ => .null, boundFrom 4 p.values⟩ = some .yes := by
  intro equal among f c
  have hf : f.isSupported = true := rfl
  refine ⟨hf, by decide, ?_⟩
  obtain ⟨p, e, t, hp, he, ht, htruth⟩ :=
    truth?_parse?_predicate hf (by decide : (1 : Int) ≤ 4) c fun _ => .null
  refine ⟨p, e, hp, he, ht.trans ?_⟩
  rw [← htruth]
  rfl

end Filter

end VectorTable
