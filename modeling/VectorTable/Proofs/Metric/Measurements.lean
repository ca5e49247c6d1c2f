import VectorTable.Metric.Sample

/-!
# The measurements of a history in parts

Measurements are read off a history event by event, and amounts off measurements one by one, so both are known of a history that is put together from parts.
-/

namespace VectorTable.Metric

@[simp] theorem measurements_nil : measurements [] = [] := rfl

@[simp] theorem measurements_append (h₁ h₂ : History) :
    measurements (h₁ ++ h₂) = measurements h₁ ++ measurements h₂ := List.filterMap_append

@[simp] theorem measurements_contact (contact : Contact) (reply : Reply) (h : History) :
    measurements (.contact contact reply :: h) = measurements h := rfl

@[simp] theorem measurements_measured (m : Measurement) (h : History) :
    measurements (.note (.measured m) :: h) = m :: measurements h := rfl

@[simp] theorem measurements_log (entry : Log.Entry) (h : History) :
    measurements (.note (.log entry) :: h) = measurements h := rfl

@[simp] theorem measurements_spanEntered (name : String) (attributes : Attributes) (h : History) :
    measurements (.note (.spanEntered name attributes) :: h) = measurements h := rfl

@[simp] theorem measurements_spanLeft (failure : Option Failure) (h : History) :
    measurements (.note (.spanLeft failure) :: h) = measurements h := rfl

@[simp] theorem measurements_idIssued (h : History) :
    measurements (.note .idIssued :: h) = measurements h := rfl

@[simp] theorem writtenAmounts_nil : writtenAmounts [] = [] := rfl

@[simp] theorem writtenAmounts_append (ms ns : List Measurement) :
    writtenAmounts (ms ++ ns) = writtenAmounts ms ++ writtenAmounts ns := List.filterMap_append

@[simp] theorem writtenAmounts_completed (name status : String) (ms : List Measurement) :
    writtenAmounts (completed name status :: ms) = writtenAmounts ms := rfl

@[simp] theorem operationOutcomes_nil : operationOutcomes [] = [] := rfl

@[simp] theorem operationOutcomes_append (ms ns : List Measurement) :
    operationOutcomes (ms ++ ns) = operationOutcomes ms ++ operationOutcomes ns :=
  List.filterMap_append

@[simp] theorem operationOutcomes_completed (name status : String) (ms : List Measurement) :
    operationOutcomes (completed name status :: ms) = (name, status) :: operationOutcomes ms := rfl

@[simp] theorem writtenAmounts_rowsWritten (amount : Value) (ms : List Measurement) :
    writtenAmounts (.rowsWritten amount :: ms) = amount :: writtenAmounts ms := rfl

/-! ### Rows written and rows deleted -/

/-- The two totals of rows. -/
inductive RowTotal
  | written
  | deleted
deriving DecidableEq, Repr

namespace RowTotal

def name : RowTotal → String
  | written => "alloydb_vectorstore_rows_written_total"
  | deleted => "alloydb_vectorstore_rows_deleted_total"

def measurement : RowTotal → Value → Measurement
  | written => .rowsWritten
  | deleted => .rowsDeleted

/-- The amounts that a history adds to a total, in order. -/
def amounts (total : RowTotal) (h : History) : List Value :=
  match total with
  | written => writtenAmounts (measurements h)
  | deleted => deletedAmounts (measurements h)

theorem mem_amounts_iff {total : RowTotal} {h : History} {amount : Value} :
    amount ∈ total.amounts h ↔ .note (.measured (total.measurement amount)) ∈ h := by
  cases total <;>
  · simp only [amounts, writtenAmounts, deletedAmounts, measurements, List.mem_filterMap,
      measurement]
    constructor
    · rintro ⟨m, ⟨event, hevent, hm⟩, hamount⟩
      cases event with
      | contact => cases hm
      | note n =>
        cases n <;> cases hm
        cases m <;> cases hamount
        exact hevent
    · intro hevent
      exact ⟨_, ⟨_, hevent, rfl⟩, rfl⟩

variable (total : RowTotal)

theorem amounts_of_measurements_eq_nil {h : History} (hh : measurements h = []) :
    total.amounts h = [] := by
  cases total <;> simp [amounts, hh, deletedAmounts]

@[simp] theorem amounts_nil : total.amounts [] = [] := total.amounts_of_measurements_eq_nil rfl

@[simp] theorem amounts_append (h₁ h₂ : History) :
    total.amounts (h₁ ++ h₂) = total.amounts h₁ ++ total.amounts h₂ := by
  cases total <;> simp [amounts, deletedAmounts]

@[simp] theorem amounts_contact (contact : Contact) (reply : Reply) (h : History) :
    total.amounts (.contact contact reply :: h) = total.amounts h := by
  cases total <;> rfl

@[simp] theorem amounts_log (entry : Log.Entry) (h : History) :
    total.amounts (.note (.log entry) :: h) = total.amounts h := by
  cases total <;> rfl

@[simp] theorem amounts_spanEntered (name : String) (attributes : Attributes) (h : History) :
    total.amounts (.note (.spanEntered name attributes) :: h) = total.amounts h := by
  cases total <;> rfl

@[simp] theorem amounts_spanLeft (failure : Option Failure) (h : History) :
    total.amounts (.note (.spanLeft failure) :: h) = total.amounts h := by
  cases total <;> rfl

@[simp] theorem amounts_completed (name status : String) (h : History) :
    total.amounts (.note (.measured (completed name status)) :: h) = total.amounts h := by
  cases total <;> rfl

end RowTotal

end VectorTable.Metric
