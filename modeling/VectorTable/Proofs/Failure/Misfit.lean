import VectorTable.Metric.Collector
import VectorTable.Proofs.Failure.Steps
import VectorTable.Store.Match

/-!
# What reading values fails for

Values that are read as numbers, collections, rows or matches fail in one way only: they do not fit where they are used. Such a failure is told apart from arguments that are refused and from faults of the server, and it is kept by every way of putting steps together.
-/

namespace VectorTable

variable {α β : Type}

/-- All failures of a computation are values that do not fit. -/
def OnlyMisfits (x : Except Failure α) : Prop :=
  ∀ failure, x = .error failure → ∃ cause, failure = .misfit cause

/-! ### Steps -/

theorem onlyMisfits_ok (a : α) : OnlyMisfits (.ok a : Except Failure α) := nofun

theorem onlyMisfits_misfit (cause : Misfit) :
    OnlyMisfits (.error (.misfit cause) : Except Failure α) := by
  rintro _ ⟨⟩
  exact ⟨cause, rfl⟩

theorem OnlyMisfits.bind {x : Except Failure α} {f : α → Except Failure β} (hx : OnlyMisfits x)
    (hf : ∀ a, OnlyMisfits (f a)) : OnlyMisfits (x >>= f) := by
  cases x with
  | ok a => exact hf a
  | error failure =>
    rintro _ ⟨⟩
    exact hx failure rfl

theorem OnlyMisfits.map {x : Except Failure α} (hx : OnlyMisfits x) (f : α → β) :
    OnlyMisfits (f <$> x) := by
  cases x with
  | ok a => exact onlyMisfits_ok _
  | error failure =>
    rintro _ ⟨⟩
    exact hx failure rfl

theorem onlyMisfits_mapM {f : α → Except Failure β} (hf : ∀ x, OnlyMisfits (f x)) (xs : List α) :
    OnlyMisfits (xs.mapM f) := by
  induction xs with
  | nil => exact onlyMisfits_ok []
  | cons x xs ih =>
    rw [List.mapM_cons]
    exact (hf x).bind fun _ => ih.bind fun _ => onlyMisfits_ok _

theorem onlyMisfits_filterM {f : α → Except Failure Bool} (hf : ∀ x, OnlyMisfits (f x))
    (xs : List α) : OnlyMisfits (xs.filterM f) := by
  have haux : ∀ done, OnlyMisfits (xs.filterAuxM f done) := by
    induction xs with
    | nil => exact fun done => onlyMisfits_ok done
    | cons x xs ih => exact fun done => (hf x).bind fun _ => ih _
  exact (haux []).bind fun _ => onlyMisfits_ok _

/-! ### Values -/

theorem onlyMisfits_floatOfInt (n : Int) : OnlyMisfits (floatOfInt n) := by
  rw [floatOfInt]
  split
  · exact onlyMisfits_ok _
  · exact onlyMisfits_misfit _

theorem onlyMisfits_floatOfText (s : String) : OnlyMisfits (floatOfText s) := by
  rw [floatOfText]
  split
  · exact onlyMisfits_ok _
  · exact onlyMisfits_misfit _

theorem onlyMisfits_floatOfBytes (data : List UInt8) : OnlyMisfits (floatOfBytes data) := by
  rw [floatOfBytes]
  split
  · split
    · exact onlyMisfits_ok _
    · exact onlyMisfits_misfit _
  · exact onlyMisfits_misfit _

namespace Value

theorem onlyMisfits_toFloat (v : Value) : OnlyMisfits v.toFloat := by
  cases v with
  | bool _ | float _ => exact onlyMisfits_ok _
  | int n => exact onlyMisfits_floatOfInt n
  | text s => exact onlyMisfits_floatOfText s
  | bytes data => exact onlyMisfits_floatOfBytes data
  | _ => exact onlyMisfits_misfit _

theorem onlyMisfits_items (v : Value) : OnlyMisfits v.items := by
  cases v with
  | list _ | text _ | bytes _ | dictionary _ => exact onlyMisfits_ok _
  | _ => exact onlyMisfits_misfit _

theorem onlyMisfits_lessThan (operator : String) (v w : Value) :
    OnlyMisfits (v.lessThan operator w) := by
  rw [lessThan]
  split
  · exact onlyMisfits_ok _
  · exact onlyMisfits_misfit _

theorem onlyMisfits_column (row : Value) (name : String) : OnlyMisfits (row.column name) := by
  cases row with
  | dictionary _ => exact onlyMisfits_ok _
  | _ => exact onlyMisfits_misfit _

theorem onlyMisfits_requiredColumn (row : Value) (name : String) :
    OnlyMisfits (row.requiredColumn name) := by
  cases row with
  | dictionary entries =>
    rw [requiredColumn]
    split
    · exact onlyMisfits_ok _
    · exact onlyMisfits_misfit _
  | _ => exact onlyMisfits_misfit _

theorem onlyMisfits_putPairs (entries : List (Value × Value)) (position : Nat)
    (pairs : List Value) : OnlyMisfits (putPairs entries position pairs) := by
  induction pairs generalizing entries position with
  | nil => exact onlyMisfits_ok _
  | cons item pairs ih =>
    rw [putPairs]
    split
    · exact onlyMisfits_misfit _
    · split
      · exact ih _ _
      · exact onlyMisfits_misfit _
    · exact onlyMisfits_misfit _

theorem onlyMisfits_updateEntries (entries : List (Value × Value)) (source : Value) :
    OnlyMisfits (updateEntries entries source) := by
  cases source with
  | dictionary others => exact onlyMisfits_ok _
  | _ => exact (onlyMisfits_items _).bind fun _ => onlyMisfits_putPairs _ _ _

end Value

theorem Metric.onlyMisfits_addend (amount : Value) : OnlyMisfits (addend amount) := by
  cases amount with
  | bool b => exact Value.onlyMisfits_toFloat (.bool b)
  | int n => exact Value.onlyMisfits_toFloat (.int n)
  | float x => exact Value.onlyMisfits_toFloat (.float x)
  | _ => exact onlyMisfits_misfit _

theorem Metric.onlyMisfits_increase (amount : Value) : OnlyMisfits (increase amount) := by
  apply (Value.onlyMisfits_lessThan _ _ _).bind
  intro negative
  cases negative with
  | false => exact onlyMisfits_addend amount
  | true => exact (onlyMisfits_misfit _).bind fun _ => onlyMisfits_addend amount

/-! ### Matches -/

theorem onlyMisfits_vectorComponents (v : Value) : OnlyMisfits (vectorComponents v) :=
  (Value.onlyMisfits_items v).bind fun _ => onlyMisfits_mapM Value.onlyMisfits_toFloat _

theorem onlyMisfits_formatVector (v : Value) : OnlyMisfits (formatVector v) :=
  (onlyMisfits_vectorComponents v).bind fun _ => onlyMisfits_ok _

theorem onlyMisfits_parseVector (v : Value) : OnlyMisfits (parseVector v) := by
  cases v with
  | null => exact onlyMisfits_ok none
  | text s =>
    refine OnlyMisfits.map ?_ some
    rw [readVector]
    split
    · exact onlyMisfits_ok []
    · exact onlyMisfits_mapM (fun _ => onlyMisfits_floatOfText _) _
  | _ => exact (onlyMisfits_vectorComponents _).map some

theorem Distance.onlyMisfits_score (measure : Distance) (d : Float) :
    OnlyMisfits (measure.score d) := by
  rw [score]
  split
  · exact onlyMisfits_ok _
  · exact onlyMisfits_misfit _

namespace Schema

variable (s : Schema)

theorem onlyMisfits_jsonContent (row : Value) : OnlyMisfits (s.jsonContent row) := by
  rw [jsonContent]
  split
  · exact onlyMisfits_ok _
  · apply (Value.onlyMisfits_column _ _).bind
    intro content
    cases content with
    | text text =>
      have hread : OnlyMisfits ((Json.read text).mapError fun fault => .misfit (.badJson fault)) := by
        cases Json.read text with
        | ok value => exact onlyMisfits_ok value
        | error fault => exact onlyMisfits_misfit _
      exact hread
    | _ => exact onlyMisfits_ok _

theorem onlyMisfits_putColumns (row : Value) (entries : List (Value × Value))
    (names : List String) : OnlyMisfits (putColumns row entries names) := by
  induction names generalizing entries with
  | nil => exact onlyMisfits_ok _
  | cons name names ih => exact (Value.onlyMisfits_column _ _).bind fun _ => ih _

theorem onlyMisfits_rowMetadata (row : Value) : OnlyMisfits (s.rowMetadata row) := by
  apply (s.onlyMisfits_jsonContent row).bind
  intro content
  dsimp only
  split
  · exact (Value.onlyMisfits_updateEntries _ _).bind fun _ => onlyMisfits_putColumns _ _ _
  · exact (onlyMisfits_ok []).bind fun _ => onlyMisfits_putColumns _ _ _

theorem onlyMisfits_rowDistance (row : Value) : OnlyMisfits (rowDistance row) := by
  apply (Value.onlyMisfits_column _ _).bind
  intro distance
  cases distance with
  | null => exact onlyMisfits_ok _
  | _ => exact (Value.onlyMisfits_toFloat _).bind fun _ => onlyMisfits_ok _

theorem onlyMisfits_rowScore (measure : Distance) (given distance : Option Float) :
    OnlyMisfits (rowScore measure given distance) := by
  cases given with
  | some score => exact onlyMisfits_ok score
  | none =>
    cases distance with
    | some d => exact measure.onlyMisfits_score d
    | none => exact onlyMisfits_ok 0

theorem onlyMisfits_rowToMatch (measure : Distance) (given : Option Float) (row : Value) :
    OnlyMisfits (s.rowToMatch measure given row) := by
  apply (s.onlyMisfits_rowMetadata row).bind
  intro _
  apply (onlyMisfits_rowDistance row).bind
  intro _
  apply (onlyMisfits_rowScore measure given _).bind
  intro _
  apply (Value.onlyMisfits_requiredColumn row _).bind
  intro _
  apply (Value.onlyMisfits_column row _).bind
  intro _
  apply (onlyMisfits_parseVector _).bind
  intro _
  exact (Value.onlyMisfits_column row _).bind fun _ => onlyMisfits_ok _

end Schema

theorem onlyMisfits_keepScored (minScore : Value) (found : List Match) :
    OnlyMisfits (keepScored minScore found) := by
  rw [keepScored]
  split
  · exact onlyMisfits_ok found
  · refine onlyMisfits_filterM (fun m => ?_) found
    rw [reachesScore]
    split
    · exact onlyMisfits_ok _
    · exact onlyMisfits_misfit _

end VectorTable
