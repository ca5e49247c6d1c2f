import VectorTable.Metric.Collector
import VectorTable.Proofs.Decimal.Whole
import VectorTable.Proofs.Metric.Measurements

/-!
# The totals of rows

The rows that are written and those that are deleted are each counted by a total that only grows, and that is a double. As long as every amount is a count and the total stays within the whole numbers that doubles hold, it is exact, in whatever order the amounts are added.
-/

namespace VectorTable.Metric

open Decimal

namespace RowTotal

/-- A total after a history. -/
def value (total : RowTotal) (h : History) : Float := Metric.total ((total.amounts h).map amountOf)

/-- The samples of a histogram are named after it. -/
theorem name_of_mem_histogram {name : String} {labels : List (String × String)}
    {bounds : List (Float × String)} {observed : List Float} {sample : Sample}
    (h : sample ∈ histogram name labels bounds observed) :
    ∃ ending ∈ ["_bucket", "_count", "_sum"], sample.name = name ++ ending := by
  rcases List.mem_append.mp h with hbucket | hlast
  · obtain ⟨bound, -, rfl⟩ := List.mem_map.mp hbucket
    exact ⟨"_bucket", by simp, rfl⟩
  · simp only [List.mem_cons, List.not_mem_nil, or_false] at hlast
    rcases hlast with rfl | rfl | rfl
    · exact ⟨"_bucket", by simp, rfl⟩
    · exact ⟨"_count", by simp, rfl⟩
    · exact ⟨"_sum", by simp, rfl⟩

theorem name_ne_of_mem_histogram {total : RowTotal} {name : String}
    (hname : name = "alloydb_vectorstore_operation_latency_seconds" ∨
      name = "alloydb_vectorstore_search_results") {labels : List (String × String)}
    {bounds : List (Float × String)} {observed : List Float} {sample : Sample}
    (h : sample ∈ histogram name labels bounds observed) : sample.name ≠ total.name := by
  obtain ⟨ending, hending, heq⟩ := name_of_mem_histogram h
  simp only [List.mem_cons, List.not_mem_nil, or_false] at hending
  rw [heq]
  rcases hname with rfl | rfl <;> rcases hending with rfl | rfl | rfl <;> cases total <;> decide

/-- What is shown under the name of a total is the total, and nothing else. -/
theorem mem_samples_iff {total : RowTotal} {h : History} {sample : Sample}
    (hname : sample.name = total.name) :
    sample ∈ samples (measurements h) ↔ sample = ⟨total.name, [], total.value h⟩ := by
  rw [samples, List.mem_mergeSort, List.mem_map]
  constructor
  · rintro ⟨shown, hshown, rfl⟩
    replace hname : shown.name = total.name := hname
    simp only [List.mem_append] at hshown
    rcases hshown with ((hoperation | hduration) | hrows) | hresult
    · obtain ⟨outcome, -, rfl⟩ := List.mem_map.mp hoperation
      cases total <;> simp [name] at hname
    · obtain ⟨operation, -, hmem⟩ := List.mem_flatMap.mp hduration
      exact absurd hname (name_ne_of_mem_histogram (.inl rfl) hmem)
    · simp only [List.mem_cons, List.not_mem_nil, or_false] at hrows
      rcases hrows with rfl | rfl <;> cases total
      · simp [name, value, amounts, sortLabels]
      · simp [name] at hname
      · simp [name] at hname
      · simp [name, value, amounts, sortLabels]
    · exact absurd hname (name_ne_of_mem_histogram (.inr rfl) hresult)
  · rintro rfl
    refine ⟨⟨total.name, [], total.value h⟩, ?_, ?_⟩
    · cases total <;> simp [name, value, amounts]
    · simp [sortLabels]

end RowTotal

/-! ### Amounts that are counts -/

/-- The number of rows that an amount stands for. -/
def rowsOf : Value → Nat
  | .int n => n.toNat
  | _ => 0

def rowCount (amounts : List Value) : Nat := (amounts.map rowsOf).sum

/-- Amounts that are all counts and that come to some number of rows. -/
structure CountsTo (amounts : List Value) (rows : Nat) : Prop where
  counts : ∀ amount ∈ amounts, ∃ n : Nat, amount = .int n
  sum : rowCount amounts = rows

theorem countsTo_nil : CountsTo [] 0 := ⟨fun _ h => absurd h List.not_mem_nil, rfl⟩

theorem countsTo_singleton (n : Nat) : CountsTo [.int n] n := by
  refine ⟨fun amount hamount => ?_, ?_⟩
  · exact ⟨n, List.mem_singleton.mp hamount⟩
  · simp [rowCount, rowsOf]

theorem limit_lt_doubleLimit : Whole.limit < doubleLimit := by decide +kernel

theorem floatOfInt_count {n : Nat} (hn : n ≤ Whole.limit) :
    floatOfInt n = .ok (Float.ofNat n) := by
  have hsmall : (n : Int).natAbs < doubleLimit := by
    rw [Int.natAbs_natCast]
    exact Nat.lt_of_le_of_lt hn limit_lt_doubleLimit
  rw [floatOfInt, if_pos hsmall]
  rfl

theorem amountOf_count {n : Nat} (hn : n ≤ Whole.limit) : amountOf (.int n) = Float.ofNat n := by
  rw [amountOf, Value.toFloat, floatOfInt_count hn]
  rfl

/-- Counts are added without loss while the sum is at most the limit. -/
theorem foldl_amountOf {amounts : List Value} {rows start : Nat} (hamounts : CountsTo amounts rows)
    (hfits : start + rows ≤ Whole.limit) :
    (amounts.map amountOf).foldl (· + ·) (Float.ofNat start) = Float.ofNat (start + rows) := by
  obtain ⟨hcounts, rfl⟩ := hamounts
  induction amounts generalizing start with
  | nil => rfl
  | cons amount amounts ih =>
    obtain ⟨n, rfl⟩ := hcounts _ List.mem_cons_self
    have hsum : rowCount (.int n :: amounts) = n + rowCount amounts := rfl
    rw [hsum, ← Nat.add_assoc] at hfits ⊢
    rw [List.map_cons, List.foldl_cons, amountOf_count (by omega), Whole.ofNat_add (by omega)]
    exact ih (fun other hother => hcounts other (List.mem_cons_of_mem _ hother)) hfits

theorem RowTotal.value_append {total : RowTotal} {past h : History} {start rows : Nat}
    (hpast : total.value past = Float.ofNat start) (hcounts : CountsTo (total.amounts h) rows)
    (hfits : start + rows ≤ Whole.limit) :
    total.value (past ++ h) = Float.ofNat (start + rows) := by
  rw [value, amounts_append, List.map_append, Metric.total, List.foldl_append]
  change ((total.amounts h).map amountOf).foldl (· + ·) (total.value past) = _
  rw [hpast, foldl_amountOf hcounts hfits]

/-- A count that a double holds may be added to a total. -/
theorem increase_count {n : Nat} (hn : n ≤ Whole.limit) :
    increase (.int n) = .ok (Float.ofNat n) := by
  have hnonnegative : (Value.int n).lessThan "<" (.int 0) = .ok false := by
    simp [Value.lessThan, Value.magnitude?, Magnitude.below, Magnitude.atMost, Magnitude.equal]
  have haddend : addend (.int n) = .ok (Float.ofNat n) := by
    rw [addend, Value.toFloat, floatOfInt_count hn]
  rw [increase, hnonnegative, haddend]
  rfl

end VectorTable.Metric
