import VectorTable.Proofs.Json.Writer
import VectorTable.Proofs.Record.Alignment

/-!
# What stands in the JSON column

An insertion binds nothing to the JSON column, or a text. Whole numbers with too many digits are not written at all, and the insertion fails for them. The text is JSON as long as the metadata in it are numbers where they are doubles; whatever texts, identifiers and whole numbers are in it, and whatever their names are, makes no difference. A single double that is no number spoils the text, and with it the whole batch, since the column takes no other text.
-/

namespace VectorTable

/-- Whether a value is one of the scalars that metadata are made of: a number, a text or an identifier. -/
def Value.isScalar : Value → Bool
  | bool _ | int _ | float _ | text _ | uuid _ => true
  | null | list _ | bytes _ | dictionary _ => false

namespace Json

theorem isFinite_record_iff (entries : List (String × Value)) :
    isFinite (.record entries) = true ↔ ∀ entry ∈ entries, isFinite entry.2 = true := by
  rw [Value.record, isFinite]
  induction entries with
  | nil => simp [allNamedFinite]
  | cons entry entries ih =>
    rw [List.map_cons, allNamedFinite, Bool.and_eq_true, ih, List.forall_mem_cons]

/-- Of the scalars, only whole numbers with too many digits are not written. -/
theorem obstacle?_eq_none_iff_of_isScalar {v : Value} (hv : v.isScalar = true) :
    obstacle? numberLimit v = none ↔ ∀ n, v = .int n → n.natAbs < 10 ^ Decimal.mostDigits := by
  cases v with
  | int n =>
    have hdigits : digitCount n ≤ Decimal.mostDigits ↔ n.natAbs < 10 ^ Decimal.mostDigits :=
      Nat.length_toDigits_le_iff (by decide) (by decide)
    have hnone : obstacle? numberLimit (.int n) = none ↔ digitCount n ≤ Decimal.mostDigits := by
      simp [obstacle?, numberObstacle?, numberLimit]
    rw [hnone, hdigits]
    constructor
    · rintro hfew _ ⟨⟩
      exact hfew
    · intro hfew
      exact hfew n rfl
  | list | dictionary => cases hv
  | _ => exact iff_of_true rfl nofun

end Json

/-- What a JSON column takes: nothing, or the text of a JSON value. -/
inductive IsJsonSlot : Value → Prop
  | null : IsJsonSlot .null
  | text {s : String} (hs : Json.IsText s) : IsJsonSlot (.text s)

namespace Schema

variable (s : Schema)

theorem isJsonSlot_encoded_iff (entries : List (String × Value)) :
    IsJsonSlot (encoded entries) ↔ ∀ entry ∈ entries, Json.isFinite entry.2 = true := by
  by_cases hempty : entries = []
  · subst hempty
    exact iff_of_true .null (List.forall_mem_nil _)
  · rw [encoded, if_neg hempty, ← Json.write_record, ← Json.isFinite_record_iff,
      ← Json.isText_write_iff]
    constructor
    · rintro ⟨⟩
      assumption
    · exact .text

theorem canWrite_iff_of_isScalar (hjson : s.jsonColumn.isSome = true) {r : Record}
    (hvector : ∃ vector, formatVector r.embedding = .ok vector)
    (hscalars : ∀ entry ∈ r.metadata, entry.2.isScalar = true) :
    s.CanWrite r ↔ ∀ entry ∈ s.overflow r.metadata, ∀ n, entry.2 = .int n →
      n.natAbs < 10 ^ Decimal.mostDigits := by
  rw [CanWrite, and_iff_right hvector, imp_iff_right hjson]
  refine forall₂_congr fun entry hentry => ?_
  exact Json.obstacle?_eq_none_iff_of_isScalar (hscalars entry (s.mem_overflow.mp hentry).1)

/-- Records with scalar metadata can be inserted exactly if no whole number among the metadata without a column has too many digits. Then each is bound to a row, and the JSON column gets nothing or the text of a JSON value exactly if all doubles among these metadata are numbers. -/
theorem insert_jsonSlot {name : String} (hname : s.jsonColumn = some name) {records : List Record}
    (hvectors : ∀ r ∈ records, ∃ vector, formatVector r.embedding = .ok vector)
    (hscalars : ∀ r ∈ records, ∀ entry ∈ r.metadata, entry.2.isScalar = true) :
    ((∃ batch, s.insert records = .ok batch) ↔
      ∀ r ∈ records, ∀ entry ∈ s.overflow r.metadata, ∀ n, entry.2 = .int n →
        n.natAbs < 10 ^ Decimal.mostDigits) ∧
    ∀ batch, s.insert records = .ok batch → batch.rows.length = records.length ∧
      ∀ r row, (r, row) ∈ records.zip batch.rows → ∃ value, s.bound? row name = some value ∧
        (IsJsonSlot value ↔ ∀ entry ∈ s.overflow r.metadata, Json.isFinite entry.2 = true) := by
  have hjson : s.jsonColumn.isSome = true := by
    rw [hname]
    rfl
  constructor
  · rw [s.exists_insert_iff]
    exact forall₂_congr fun r hr => s.canWrite_iff_of_isScalar hjson (hvectors r hr) (hscalars r hr)
  · intro batch hbatch
    have hbinds := s.binds_of_insert hbatch
    refine ⟨hbinds.length_eq, fun r row hmem => ?_⟩
    have hslot := (hbinds.holds r row hmem).json_eq name hname
    exact ⟨_, hslot, isJsonSlot_encoded_iff _⟩

/-- Quotes, control characters and characters beyond the first plane in a text, a small double and an identifier leave the text valid. -/
theorem insert_jsonSlot_escapes :
    let s : Schema := ⟨Draft.ofTable "documents", by decide⟩
    let r : Record := ⟨.text "a", .list [.float 1], none,
      [("note", .text "\"\x01\u00e9😀"), ("rank", .int (-7)), ("score", .float 1e-7),
        ("owner", .uuid "00000000-0000-4000-8000-000000000001")]⟩
    ∃ row value, s.insert [r] = .ok ⟨s.insertPieces, [row]⟩ ∧
      s.bound? row "langchain_metadata" = some value ∧ IsJsonSlot value := by
  intro s r
  have hvector : ∃ vector, formatVector r.embedding = .ok vector := ⟨_, formatVector_list [1]⟩
  have hscalars : ∀ entry ∈ r.metadata, entry.2.isScalar = true := by decide
  have hfinite : ∀ entry ∈ s.overflow r.metadata, Json.isFinite entry.2 = true := by decide +kernel
  have hwrite : s.CanWrite r := ⟨hvector, fun _ => by decide⟩
  have hfew := (s.canWrite_iff_of_isScalar rfl hvector hscalars).mp hwrite
  obtain ⟨hinserts, hslots⟩ := s.insert_jsonSlot rfl (List.forall_mem_singleton.mpr hvector)
    (List.forall_mem_singleton.mpr hscalars)
  obtain ⟨batch, hbatch⟩ := hinserts.mpr (List.forall_mem_singleton.mpr hfew)
  obtain ⟨hlength, hbound⟩ := hslots batch hbatch
  obtain ⟨rows, -, rfl⟩ := s.insert_eq_ok_iff.mp hbatch
  obtain ⟨row, rfl⟩ := List.length_eq_one_iff.mp hlength
  obtain ⟨value, hvalue, hslot⟩ := hbound r row List.mem_cons_self
  exact ⟨row, value, hbatch, hvalue, hslot.mpr hfinite⟩

/-- A double that is no number is written as a word. -/
theorem not_isJsonSlot_nan :
    let s : Schema := ⟨Draft.ofTable "documents", by decide⟩
    let r : Record := ⟨.text "a", .list [.float 1], none, [("score", .float (0 / 0))]⟩
    ∃ row value, s.insert [r] = .ok ⟨s.insertPieces, [row]⟩ ∧
      s.bound? row "langchain_metadata" = some value ∧ ¬IsJsonSlot value := by
  intro s r
  have hwrite : s.CanWrite r := ⟨⟨_, formatVector_list [1]⟩, fun _ => by decide⟩
  obtain ⟨row, hrow⟩ := s.exists_row_iff.mpr hwrite
  have hrows : [r].mapM s.row = .ok [row] := by
    rw [List.mapM_cons, hrow]
    rfl
  have hnan : ¬∀ entry ∈ s.overflow r.metadata, Json.isFinite entry.2 = true := by decide +kernel
  exact ⟨row, _, s.insert_eq_ok_iff.mpr ⟨_, hrows, rfl⟩,
    (s.holds_of_row hrow).json_eq "langchain_metadata" rfl,
    (isJsonSlot_encoded_iff _).not.mpr hnan⟩

end Schema

end VectorTable
