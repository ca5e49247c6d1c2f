import VectorTable.Proofs.Failure.Misfit
import VectorTable.Schema.Create
import VectorTable.Store.Create
import VectorTable.Store.Write

/-!
# Failures that the server has no part in

Statements are built from arguments, and a schema is resolved against the columns of a table. Either may fail because an argument is refused, a value does not fit or the table is a different one, but never for a fault of the server, for want of a connection, or with a failure that accounts for such a fault.
-/

namespace VectorTable

variable {α β : Type}

/-- Whether the server has no part in a failure. -/
def Failure.isLocal : Failure → Bool
  | execution .. | fault _ | notConnected => false
  | _ => true

/-- The server has no part in any failure of a computation. -/
def FailsLocally (x : Except Failure α) : Prop :=
  ∀ failure, x = .error failure → failure.isLocal = true

/-! ### Steps -/

theorem failsLocally_ok (a : α) : FailsLocally (.ok a : Except Failure α) := nofun

theorem failsLocally_error {failure : Failure} (hlocal : failure.isLocal = true) :
    FailsLocally (.error failure : Except Failure α) := by
  rintro _ ⟨⟩
  exact hlocal

theorem OnlyMisfits.failsLocally {x : Except Failure α} (hx : OnlyMisfits x) : FailsLocally x := by
  intro failure hfailure
  obtain ⟨cause, rfl⟩ := hx failure hfailure
  rfl

theorem FailsLocally.bind {x : Except Failure α} {f : α → Except Failure β} (hx : FailsLocally x)
    (hf : ∀ a, FailsLocally (f a)) : FailsLocally (x >>= f) := by
  cases x with
  | ok a => exact hf a
  | error failure => exact failsLocally_error (hx failure rfl)

theorem failsLocally_mapM {f : α → Except Failure β} (hf : ∀ x, FailsLocally (f x))
    (xs : List α) : FailsLocally (xs.mapM f) := by
  induction xs with
  | nil => exact failsLocally_ok []
  | cons x xs ih =>
    rw [List.mapM_cons]
    exact (hf x).bind fun _ => ih.bind fun _ => failsLocally_ok _

/-! ### Building statements -/

theorem Value.onlyMisfits_length (v : Value) : OnlyMisfits v.length := by
  cases v with
  | list _ | text _ | bytes _ | dictionary _ => exact onlyMisfits_ok _
  | _ => exact onlyMisfits_misfit _

theorem Value.onlyMisfits_atMost (operator : String) (v w : Value) :
    OnlyMisfits (v.atMost operator w) := by
  rw [atMost]
  split
  · exact onlyMisfits_ok _
  · exact onlyMisfits_misfit _

theorem Filter.failsLocally_translate (f : Filter) (n : Numbering) :
    FailsLocally (f.translate n) := by
  induction f generalizing n with
  | leaf condition => exact failsLocally_ok _
  | and left right ihleft ihright | or left right ihleft ihright =>
    exact (ihleft n).bind fun _ => (ihright _).bind fun _ => failsLocally_ok _
  | not inner ih => exact (ih n).bind fun _ => failsLocally_ok _
  | custom _ _ | plain _ => exact failsLocally_error rfl

theorem SearchRequest.failsLocally_make (embedding limit minScore : Value)
    (filter : Option Filter) : FailsLocally (make embedding limit minScore filter) := by
  rw [make]
  split
  · split
    · exact failsLocally_ok _
    · exact failsLocally_error rfl
    · next failure hlimit =>
      exact failsLocally_error ((Value.onlyMisfits_atMost _ _ _).failsLocally failure hlimit)
  · exact failsLocally_error rfl

theorem TypedColumn.failsLocally_declare (name dataType : String) (nullable : Bool) :
    FailsLocally (declare name dataType nullable) := by
  rw [declare]
  split
  · split
    · exact failsLocally_ok _
    · exact failsLocally_error rfl
  · exact failsLocally_error rfl

namespace Schema

variable (s : Schema)

theorem failsLocally_search (distance : Distance) (request : SearchRequest) :
    FailsLocally (s.search distance request) := by
  apply (onlyMisfits_formatVector _).failsLocally.bind
  intro vector
  have hclause : FailsLocally (filterClause request.filter) := by
    cases request.filter with
    | none => exact failsLocally_ok _
    | some filter =>
      have hpredicate : FailsLocally (filter.predicate 2) :=
        (filter.failsLocally_translate _).bind fun _ => failsLocally_ok _
      exact hpredicate.bind fun _ => failsLocally_ok _
  exact hclause.bind fun _ => failsLocally_ok _

theorem failsLocally_identifiers (operation : String) (ids : Value) :
    FailsLocally (s.identifiers operation ids) := by
  rw [identifiers]
  split
  · exact ids.onlyMisfits_items.failsLocally
  · exact failsLocally_error rfl

theorem failsLocally_getByIds (ids : Value) : FailsLocally (s.getByIds ids) :=
  (s.failsLocally_identifiers _ ids).bind fun _ => failsLocally_ok _

theorem failsLocally_delete (ids : Value) : FailsLocally (s.delete ids) :=
  (s.failsLocally_identifiers _ ids).bind fun _ => failsLocally_ok _

theorem onlyMisfits_row (r : Record) : OnlyMisfits (s.row r) := by
  apply (onlyMisfits_formatVector _).bind
  intro vector
  have hjson : OnlyMisfits (jsonValue (s.overflow r.metadata)) := by
    rw [jsonValue]
    split
    · exact onlyMisfits_ok _
    · split
      · exact onlyMisfits_misfit _
      · exact onlyMisfits_ok _
  have hvalues : OnlyMisfits (s.jsonValues r.metadata) := by
    rw [jsonValues]
    split
    · exact hjson.bind fun _ => onlyMisfits_ok _
    · exact onlyMisfits_ok _
  exact hvalues.bind fun _ => onlyMisfits_ok _

theorem failsLocally_createTable (size : Value) (storeMetadata : Bool) :
    FailsLocally (s.createTable size storeMetadata) := by
  have hsize : FailsLocally (vectorSize? size) := by
    rw [vectorSize?.eq_def]
    split
    · exact failsLocally_ok _
    · exact failsLocally_error rfl
  apply hsize.bind
  intro n
  refine (failsLocally_mapM (fun column => ?_) _).bind fun _ => failsLocally_ok _
  cases column with
  | named name => exact failsLocally_error rfl
  | typed column => exact failsLocally_ok column

end Schema

theorem Store.onlyMisfits_records (embeddings : List Value) (texts : List (Option String))
    (metadata : List (List (String × Value))) (ids : List Value) :
    OnlyMisfits (records embeddings texts metadata ids) :=
  onlyMisfits_mapM (fun entry => entry.2.1.onlyMisfits_items.bind fun _ => onlyMisfits_ok _) _

/-! ### Resolving a schema -/

theorem onlyMisfits_isTextType (dataType : Value) : OnlyMisfits (isTextType dataType) := by
  cases dataType with
  | text _ | bytes _ => exact onlyMisfits_ok _
  | _ => exact onlyMisfits_misfit _

theorem onlyMisfits_isVectorType (dataType : Value) : OnlyMisfits (isVectorType dataType) := by
  cases dataType with
  | text _ | bytes _ => exact onlyMisfits_ok _
  | _ => exact onlyMisfits_misfit _

theorem TypedColumn.failsLocally_ofTable (name : String) (dataType : Value) :
    FailsLocally (ofTable name dataType) := by
  rw [ofTable.eq_def]
  split
  · exact failsLocally_declare _ _ _
  · split
    · exact failsLocally_error rfl
    · split <;> exact failsLocally_error rfl

theorem MetadataColumn.failsLocally_resolve (column : MetadataColumn) (columns : TableColumns)
    (table : String) : FailsLocally (column.resolve columns table) := by
  rw [resolve]
  split
  · exact failsLocally_error rfl
  · cases column with
    | typed column => exact failsLocally_ok column
    | named name => exact TypedColumn.failsLocally_ofTable name _

theorem Schema.failsLocally_ofDraft (draft : Draft) : FailsLocally (ofDraft draft) := by
  rw [ofDraft]
  split
  · exact failsLocally_ok _
  · exact failsLocally_error rfl

namespace Schema

variable (s : Schema)

theorem onlyMisfits_roleMismatch? (columns : TableColumns) :
    OnlyMisfits (s.roleMismatch? columns) := by
  rw [roleMismatch?]
  split
  · exact onlyMisfits_ok _
  · split
    · exact onlyMisfits_ok _
    · apply (onlyMisfits_isTextType _).bind
      intro textual
      split
      · exact onlyMisfits_ok _
      · split
        · exact onlyMisfits_ok _
        · refine (onlyMisfits_isVectorType _).bind fun fitting => ?_
          split <;> exact onlyMisfits_ok _

theorem failsLocally_resolvedColumns (columns : TableColumns) (ignored : List String) :
    FailsLocally (s.resolvedColumns columns ignored) := by
  apply (failsLocally_mapM (fun column => column.failsLocally_resolve columns _) _).bind
  intro declared
  split
  · exact failsLocally_ok declared
  · exact failsLocally_mapM (fun _ => TypedColumn.failsLocally_ofTable _ _) _

theorem failsLocally_resolve (columns : TableColumns) (ignored : Option (List String)) :
    FailsLocally (s.resolve columns ignored) := by
  rw [resolve]
  split
  · exact failsLocally_error rfl
  · apply (s.onlyMisfits_roleMismatch? columns).failsLocally.bind
    intro mismatch
    cases mismatch with
    | some cause => exact failsLocally_error rfl
    | none => exact (s.failsLocally_resolvedColumns columns _).bind fun _ => failsLocally_ofDraft _

end Schema

namespace Store

theorem onlyMisfits_catalogueColumn (row : Value) : OnlyMisfits (catalogueColumn row) := by
  apply (row.onlyMisfits_requiredColumn _).bind
  intro name
  apply (row.onlyMisfits_requiredColumn _).bind
  intro dataType
  have hname : OnlyMisfits (columnName name) := by
    rw [columnName.eq_def]
    split
    · exact onlyMisfits_ok _
    · split
      · exact onlyMisfits_ok _
      · exact onlyMisfits_misfit _
  exact hname.bind fun _ => onlyMisfits_ok _

theorem failsLocally_resolveRows (schema : Schema) (ignored : Option (List String))
    (answer : Value) : FailsLocally (resolveRows schema ignored answer) := by
  rw [resolveRows]
  split
  · apply answer.onlyMisfits_items.failsLocally.bind
    intro rows
    have hcolumns : OnlyMisfits (tableColumns rows) :=
      (onlyMisfits_mapM onlyMisfits_catalogueColumn rows).bind fun _ => onlyMisfits_ok _
    exact hcolumns.failsLocally.bind fun columns => schema.failsLocally_resolve columns ignored
  · exact failsLocally_error rfl

end Store

end VectorTable
