import VectorTable.Proofs.Filter.Precedence
import VectorTable.Proofs.Record.Alignment
import VectorTable.Proofs.Statement.Shape

/-!
# What filters select

A filter on metadata has a plain meaning of true or false: a key that is absent, or that has nothing in it, fails an equality and satisfies whatever denies one. The database sees a row and has a third truth value. For filters made of equalities and their denials the two agree on the row of every record, however deep the negations, so a filter and its negation part the records between them.
-/

namespace VectorTable

open Sql

/-! ### The plain meaning -/

/-- The value of a key, if there is something in it. -/
def present? (metadata : List (String × Value)) (key : String) : Option Value :=
  (lookupName metadata key).filter fun value => !value.isNull

def Leaf.selects (c : Comparing) (metadata : List (String × Value)) : Leaf → Bool
  | compare operator key operand =>
    match present? metadata key.text with
    | none => operator == .notEqual
    | some value => c.holds operator value operand.value
  | member operator key first rest =>
    match present? metadata key.text with
    | none => operator == .notAmong
    | some value => operator.holds ((first :: rest).any fun operand => c.equal value operand.value)

namespace Filter

def selects (c : Comparing) (metadata : List (String × Value)) : Filter → Bool
  | leaf condition => condition.selects c metadata
  | and left right => left.selects c metadata && right.selects c metadata
  | or left right => left.selects c metadata || right.selects c metadata
  | not inner => !inner.selects c metadata
  | custom .. | plain _ => false

end Filter

/-- The leaves that leave nothing unknown when their key is missing: equalities and what denies one. -/
def Leaf.isDecided : Leaf → Bool
  | compare .equal .. | compare .notEqual .. | member .notAmong .. => true
  | compare .. | member .among .. => false

/-- Whether all nodes of a filter can be expressed and all its leaves are decided. -/
def Filter.isDecided : Filter → Bool
  | leaf condition => condition.isDecided
  | and left right | or left right => left.isDecided && right.isDecided
  | not inner => inner.isDecided
  | custom .. | plain _ => false

/-! ### Rows of records -/

namespace Schema

variable {s : Schema}

def stored (s : Schema) (row : List Value) (column : String) : Value :=
  (lookupName (s.insertColumns.zip row) column).getD .null

/-- A metadata column holds the value of its key, and nothing if the key is absent. -/
theorem stored_row {r : Record} {row : List Value} (hrow : s.row r = .ok row) {name : String}
    (hname : name ∈ s.metadataNames) :
    s.stored row name = (lookupName r.metadata name).getD .null := by
  have hbound : lookupName (s.insertColumns.zip row) name = _ :=
    (s.holds_of_row hrow).declared_eq name hname
  rw [stored, hbound, Option.getD_some]

end Schema

/-! ### Agreement -/

theorem isNull_getD_lookupName (metadata : List (String × Value)) (key : String) :
    ((lookupName metadata key).getD .null).isNull = (present? metadata key).isNone := by
  rw [present?]
  cases lookupName metadata key with
  | none => rfl
  | some value => cases h : value.isNull <;> simp [Option.filter, h]

theorem present?_eq_some {metadata : List (String × Value)} {key : String} {value : Value}
    (h : present? metadata key = some value) : (lookupName metadata key).getD .null = value := by
  rw [(Option.filter_eq_some_iff.mp h).1, Option.getD_some]

theorem Leaf.truth_eq_ofBool_selects {leaf : Leaf} (hleaf : leaf.isDecided = true) {c : Comparing}
    {metadata : List (String × Value)} {row : String → Value}
    (hrow : row leaf.key.text = (lookupName metadata leaf.key.text).getD .null) :
    leaf.truth c row = .ofBool (leaf.selects c metadata) := by
  have hmissing := isNull_getD_lookupName metadata leaf.key.text
  rw [← hrow] at hmissing
  -- A missing key is null in the row. Only the leaves that are not decided are unknown there.
  cases leaf with
  | compare operator key operand =>
    rw [Leaf.truth, Leaf.selects]
    rw [Leaf.key] at hmissing hrow
    cases hvalue : present? metadata key.text with
    | none =>
      rw [hmissing, hvalue]
      cases operator <;> first | rfl | cases hleaf
    | some value =>
      rw [hmissing, hvalue, hrow, present?_eq_some hvalue]
      rfl
  | member operator key first rest =>
    rw [Leaf.truth, Leaf.selects]
    rw [Leaf.key] at hmissing hrow
    cases hvalue : present? metadata key.text with
    | none =>
      rw [hmissing, hvalue]
      cases operator with
      | among => cases hleaf
      | notAmong => rfl
    | some value =>
      rw [hmissing, hvalue, hrow, present?_eq_some hvalue]
      rfl

namespace Filter

theorem isSupported_of_isDecided {f : Filter} (hf : f.isDecided = true) : f.isSupported = true := by
  induction f with
  | leaf condition => rfl
  | and left right ihl ihr | or left right ihl ihr =>
    obtain ⟨hleft, hright⟩ := Bool.and_eq_true_iff.mp hf
    exact Bool.and_eq_true_iff.mpr ⟨ihl hleft, ihr hright⟩
  | not inner ih => exact ih hf
  | custom | plain => cases hf

/-- On a row that holds the metadata under the keys of a filter, a decided filter is never unknown. -/
theorem truth?_eq_ofBool_selects {f : Filter} (hf : f.isDecided = true) {c : Comparing}
    {metadata : List (String × Value)} {row : String → Value}
    (hrow : ∀ key ∈ f.keys, row key = (lookupName metadata key).getD .null) :
    f.truth? c row = some (.ofBool (f.selects c metadata)) := by
  induction f with
  | leaf condition =>
    have hkey : row condition.key.text = (lookupName metadata condition.key.text).getD .null :=
      hrow _ (List.mem_singleton.mpr rfl)
    rw [truth?, selects, Leaf.truth_eq_ofBool_selects hf hkey]
  | and left right ihl ihr =>
    obtain ⟨hleft, hright⟩ := Bool.and_eq_true_iff.mp hf
    have hl := ihl hleft fun key hkey => hrow key (List.mem_append_left _ hkey)
    have hr := ihr hright fun key hkey => hrow key (List.mem_append_right _ hkey)
    rw [truth?, hl, hr, selects, ← Truth.ofBool_and]
    rfl
  | or left right ihl ihr =>
    obtain ⟨hleft, hright⟩ := Bool.and_eq_true_iff.mp hf
    have hl := ihl hleft fun key hkey => hrow key (List.mem_append_left _ hkey)
    have hr := ihr hright fun key hkey => hrow key (List.mem_append_right _ hkey)
    rw [truth?, hl, hr, selects, ← Truth.ofBool_or]
    rfl
  | not inner ih =>
    rw [truth?, ih hf hrow, selects, ← Truth.not_ofBool]
    rfl
  | custom | plain => cases hf

/-! ### What the database makes of it -/

/-- The truth that the database finds for the predicate of a filter on a row. -/
def databaseTruth? (f : Filter) (start : Int) (c : Comparing) (row : String → Value) :
    Option Truth := do
  let p ← (f.predicate start).toOption
  (← parse? p.sql).truth? ⟨c, row, boundFrom start.toNat p.values⟩

theorem databaseTruth?_eq {f : Filter} (hf : f.isSupported = true) {start : Int}
    (hstart : 1 ≤ start) (c : Comparing) (row : String → Value) :
    f.databaseTruth? start c row = f.truth? c row := by
  obtain ⟨first, rfl⟩ := Int.eq_ofNat_of_zero_le (Int.le_trans (by decide) hstart)
  let situation : Situation := ⟨c, row, boundFrom first f.values⟩
  obtain ⟨d, hparses, hd⟩ := f.exists_parsesTo hf (s := situation)
    (holdsFrom_boundFrom first f.values)
  obtain ⟨e, hparse, hsame⟩ := exists_parse?_of_parsesTo (lex?_pieces hf first) hparses
  have hsql : parse? (Predicate.mk (f.pieces first) f.values).sql = some e := hparse
  have hvalue : e.truth? situation = d.truth? situation := by
    rw [Expression.truth?, Expression.truth?, hsame]
  simp only [databaseTruth?, predicate_eq hf, Except.toOption, Option.bind_eq_bind,
    Option.bind_some, hsql]
  exact hvalue.trans hd

/-- On the row that an insertion binds for a record, a decided filter on metadata columns is true or false, as its plain meaning on the metadata is, and its negation selects exactly the rows that it does not select. -/
theorem databaseTruth?_stored {s : Schema} {records : List Record} {batch : Batch}
    (hbatch : s.insert records = .ok batch) {r : Record} {row : List Value}
    (hrow : (r, row) ∈ records.zip batch.rows) {f : Filter} (hf : f.isDecided = true)
    (hkeys : ∀ key ∈ f.keys, key ∈ s.metadataNames) (c : Comparing) {start : Int}
    (hstart : 1 ≤ start) :
    f.databaseTruth? start c (s.stored row) = some (.ofBool (f.selects c r.metadata)) ∧
      (f.not.databaseTruth? start c (s.stored row) = some .yes ↔
        f.databaseTruth? start c (s.stored row) ≠ some .yes) := by
  obtain ⟨rows, hrows, hbatch⟩ := bind_eq_ok_iff.mp hbatch
  cases hbatch
  have hbound : s.row r = .ok row := eq_ok_of_mem_zip_mapM hrows hrow
  have hstored : ∀ key ∈ f.keys, s.stored row key = (lookupName r.metadata key).getD .null :=
    fun key hkey => Schema.stored_row hbound (hkeys key hkey)
  have htruth : f.truth? c (s.stored row) = some (.ofBool (f.selects c r.metadata)) :=
    truth?_eq_ofBool_selects hf hstored
  have hnot : f.not.truth? c (s.stored row) = some (.ofBool (!f.selects c r.metadata)) :=
    truth?_eq_ofBool_selects (f := f.not) hf hstored
  have hsupported := isSupported_of_isDecided hf
  rw [databaseTruth?_eq hsupported hstart, databaseTruth?_eq (f := f.not) hsupported hstart, htruth,
    hnot]
  refine ⟨rfl, ?_⟩
  cases f.selects c r.metadata <;> decide

/-- A key with nothing in it and an absent key, each under a negation. -/
theorem databaseTruth?_stored_missing :
    let s : Schema :=
      ⟨{ Draft.ofTable "t" with metadataColumns := [.named "a\"b", .named "c"] }, by decide⟩
    let r : Record := ⟨.text "x", .list [.float 1], none, [("a\"b", .null), ("d", .int 2)]⟩
    let equal := leaf (.compare .equal ⟨"a\"b", by decide⟩ ⟨.int 1, rfl⟩)
    let notAmong := leaf (.member .notAmong ⟨"c", by decide⟩ ⟨.int 2, rfl⟩ [⟨.int 3, rfl⟩])
    let f := not (or equal (not notAmong))
    let c : Comparing := ⟨Value.same, Value.same, Value.same, Value.same, Value.same⟩
    ∃ row, s.insert [r] = .ok ⟨s.insertPieces, [row]⟩ ∧ f.isDecided = true ∧
      (∀ key ∈ f.keys, key ∈ s.metadataNames) ∧
      f.databaseTruth? 2 c (s.stored row) = some .yes ∧
      f.not.databaseTruth? 2 c (s.stored row) ≠ some .yes := by
  intro s r equal notAmong f c
  have hkeys : ∀ key ∈ f.keys, key ∈ s.metadataNames := by decide
  have hembedding : r.embedding = .list ([1].map .float) := rfl
  obtain ⟨row, hrow, -⟩ := s.exists_row hembedding fun _ => rfl
  have hinsert : s.insert [r] = .ok ⟨s.insertPieces, [row]⟩ := by
    rw [Schema.insert, List.mapM_cons, hrow]
    rfl
  obtain ⟨htruth, hnot⟩ := databaseTruth?_stored hinsert (List.mem_singleton.mpr rfl)
    (rfl : f.isDecided = true) hkeys c (by decide : (1 : Int) ≤ 2)
  have hselects : f.selects c r.metadata = true := rfl
  rw [hselects] at htruth
  exact ⟨row, hinsert, rfl, hkeys, htruth, fun h => hnot.mp h htruth⟩

end Filter

end VectorTable
