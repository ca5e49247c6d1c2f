import VectorTable.Proofs.Store.Refusal
import VectorTable.Proofs.Trace.Span

/-!
# The spans of operations

A call that has statements to send does its work in one span with the name of its operation, and a call that is refused enters none. The span ends as the work does: what comes after the work only fails for values that do not fit, and this leaves no mark any more. If a failure leaves the work, then it is already the one that the caller receives. It is marked twice on the span, once by the work and once by the span itself, so that it is listed two times and the status names its class before its message. A cancellation is not marked at all.
-/

namespace VectorTable

open Program

/-- The failure with which the work of a call ended if the call ended like this. Values that do not fit are noticed after the work. -/
def escaped : Option Failure → Option Failure
  | some (.misfit _) => none
  | ending => ending

/-- The history of a call that does its work in one span. -/
inductive SpanCourse (name : String) : History → Option Failure → Prop
  | worked {before work after : History} {ending : Option Failure} (hbefore : IsSpanless before)
    (hwork : IsSpanless work) (hafter : IsSpanless after) (attributes : Attributes) :
    SpanCourse name (before ++ .note (.spanEntered ("vectorstore." ++ name) attributes) ::
      (work ++ .note (.spanLeft (escaped ending)) :: after)) ending

section SpanCourse

variable {name : String} {h first : History} {ending : Option Failure}

theorem SpanCourse.spanless_append (hfirst : IsSpanless first)
    (hcourse : SpanCourse name h ending) : SpanCourse name (first ++ h) ending := by
  cases hcourse with
  | worked hbefore hwork hafter attributes =>
    rw [← List.append_assoc]
    exact .worked (hfirst.append hbefore) hwork hafter attributes

theorem SpanCourse.at_once (name : String) (ending : Option Failure) {work after : History}
    (hwork : IsSpanless work) (hafter : IsSpanless after) (attributes : Attributes) :
    SpanCourse name (.note (.spanEntered ("vectorstore." ++ name) attributes) ::
      (work ++ .note (.spanLeft (escaped ending)) :: after)) ending :=
  .worked isSpanless_nil hwork hafter attributes

/-- One span is finished. Nothing is marked on it unless a failure left it that is no cancellation. -/
theorem SpanCourse.finished_eq (hcourse : SpanCourse name h ending) :
    ∃ span, Trace.finished h = [span] ∧ span.name = "vectorstore." ++ name ∧ span.parent = none ∧
      ((∀ failure ∈ escaped ending, failure.isCancellation = true) → span.marks = .fresh) ∧
      ∀ failure ∈ escaped ending, failure.isCancellation = false →
        span.marks = ⟨[failure, failure], .error (failure.name ++ ": " ++ failure.message)⟩ := by
  cases hcourse with
  | worked hbefore hwork hafter attributes =>
    refine ⟨⟨"vectorstore." ++ name, attributes, none, Trace.recorded (escaped ending)⟩,
      Trace.finished_span hbefore hwork hafter _ attributes _, rfl, rfl, fun hcancelled => ?_,
      fun failure hfailure hreal => ?_⟩
    · apply Trace.marks_of_recorded_none
      rw [Trace.recorded, Option.filter_eq_none_iff]
      intro failure hfailure
      simp [hcancelled failure hfailure]
    · apply Trace.marks_of_failure
      rw [Trace.recorded, Option.filter_eq_some_iff]
      exact ⟨hfailure, by simp [hreal]⟩

end SpanCourse

/-! ### Programs with one span -/

section OneSpan

variable {α β : Type} {name : String} {p : Program α}

/-- Programs that do all their work, if any, in one span. -/
def WorksInSpan (name : String) (p : Program α) : Prop :=
  ∀ m h r, Path p m h r → IsSpanless h ∨ SpanCourse name h (failure? r)

theorem Program.Spanless.worksInSpan (hp : Spanless p) : WorksInSpan name p := by
  intro m h r hpath
  exact .inl (hp.isSpanless hpath)

theorem Program.Spanless.bind_worksInSpan {f : α → Program β} (hp : Spanless p)
    (hf : ∀ a, WorksInSpan name (f a)) : WorksInSpan name (p >>= f) := by
  intro m h r hpath
  rcases path_bind_iff.mp hpath with ⟨failure, hfirst, rfl⟩ | ⟨h₁, h₂, a, rfl, hfirst, hrest⟩
  · exact .inl (hp.isSpanless hfirst)
  · have hspanless := hp.isSpanless hfirst
    exact (hf a _ _ _ hrest).imp hspanless.append fun hcourse => hcourse.spanless_append hspanless

theorem worksInSpan_ofExcept_bind {x : Except Failure α} {f : α → Program β}
    (hf : ∀ a, WorksInSpan name (f a)) : WorksInSpan name (ofExcept x >>= f) :=
  (Spanless.done x).bind_worksInSpan hf

theorem WorksInSpan.bind_pure (hp : WorksInSpan name p) (f : α → β) :
    WorksInSpan name (p >>= fun a => pure (f a)) := by
  intro m h r hpath
  obtain ⟨result, hresult, rfl⟩ := path_bind_pure_iff.mp hpath
  have hsame : failure? (f <$> result) = failure? result := by cases result <;> rfl
  rw [hsame]
  exact hp _ _ _ hresult

end OneSpan

/-! ### Operations -/

section Operation

variable {α β : Type} {s : Store} {name : String} {work : Program α} {sent : List Statement}

theorem Store.isSpanless_failureNotes (s : Store) (operation : String) (failure : Failure) :
    IsSpanless (s.failureNotes operation failure) := by
  cases failure with
  | fault fault =>
    rw [failureNotes]
    split
    · exact isSpanless_cons.mpr ⟨rfl, isSpanless_cons.mpr ⟨rfl, isSpanless_nil⟩⟩
    · exact isSpanless_nil
  | _ => exact isSpanless_nil

/-- What is served by the server stays so when the operation accounts for it, so it is no value that does not fit. -/
theorem Store.escaped_failureOf {s : Store} {operation : String} {failure : Failure}
    (hserved : failure.isServed = true) :
    escaped (some (s.failureOf operation failure)) = some (s.failureOf operation failure) := by
  cases failure with
  | fault fault =>
    rw [failureOf]
    split <;> rfl
  | notConnected => rfl
  | _ => cases hserved

theorem escaped_of_onlyMisfits {r : Except Failure α} (hr : OnlyMisfits r) :
    escaped (failure? r) = none := by
  cases r with
  | ok a => rfl
  | error failure =>
    obtain ⟨cause, rfl⟩ := hr failure rfl
    rfl

theorem worksInSpan_operation {attributes : Attributes} {f : α → Program β}
    (hwork : Works sent work) (hspanless : Spanless work) (hafter : ∀ a, IsAftermath (f a))
    (hrest : ∀ a, Spanless (f a)) : WorksInSpan name (s.operation name attributes work >>= f) := by
  intro m h r hpath
  refine .inr ?_
  rcases path_bind_iff.mp hpath with ⟨failure, hblock, rfl⟩ | ⟨h₁, h₂, a, rfl, hblock, hlast⟩
  · rcases Store.path_operation hblock with ⟨_, _, _, heq, _⟩ | ⟨cause, hw, hinner, heq, rfl⟩
    · cases heq
    · cases heq
      have hserved : escaped (some (s.failureOf name cause)) = some (s.failureOf name cause) :=
        Store.escaped_failureOf ((hwork _ _ _ hinner).2.2 cause rfl)
      have hmarked : IsSpanless (hw ++ s.failureNotes name cause) :=
        (hspanless.isSpanless hinner).append (s.isSpanless_failureNotes name cause)
      have hcourse := SpanCourse.at_once name (some (s.failureOf name cause)) hmarked isSpanless_nil
        (Trace.operationSpan name s.table attributes).2
      rw [hserved] at hcourse
      exact hcourse
  · rcases Store.path_operation hblock with ⟨a', hw, hinner, heq, rfl⟩ | ⟨_, _, _, heq, _⟩
    · cases heq
      have hended : escaped (failure? r) = none :=
        escaped_of_onlyMisfits (hafter a _ _ _ hlast).2.2
      have hcounted : IsSpanless (.note (.measured (Metric.completed name "success")) :: h₂) :=
        isSpanless_cons.mpr ⟨rfl, (hrest a).isSpanless hlast⟩
      have hcourse := SpanCourse.at_once name (failure? r) (hspanless.isSpanless hinner) hcounted
        (Trace.operationSpan name s.table attributes).2
      rw [hended] at hcourse
      simpa [Store.operationStart, Trace.operationSpan] using hcourse
    · cases heq

end Operation

/-! ### What is done outside of spans -/

theorem spanless_freshId : Spanless freshId := .look fun _ => .tell rfl (.done _)

theorem spanless_freshIds {β : Type} (items : List β) : Spanless (freshIds items) := by
  induction items with
  | nil => exact .done _
  | cons item items ih => exact spanless_freshId.bind fun _ => ih.bind fun _ => .done _

theorem Schema.spanless_rowsNoted (s : Schema) (records : List Record) :
    Spanless (s.rowsNoted records) := by
  induction records with
  | nil => exact .done _
  | cons record records ih =>
    have hnote : Spanless (s.noteDropped record) := by
      rw [noteDropped]
      split
      · exact .done _
      · exact spanless_log _
    exact (Spanless.done _).bind fun row => hnote.bind fun _ => ih.bind fun _ => .done _

namespace Store

theorem Insertion.spanless_chooseIds (insertion : Insertion) : Spanless insertion.chooseIds := by
  rw [chooseIds]
  split
  · exact .done _
  · exact spanless_freshIds _

theorem spanless_chooseId (id : Value) : Spanless (chooseId id) := by
  rw [chooseId]
  split
  · exact .done _
  · exact spanless_freshId.bind fun _ => .done _

variable (s : Store)

theorem spanless_warnDistance (index : IndexDefinition) : Spanless (s.warnDistance index) := by
  rw [warnDistance]
  split
  · exact .done _
  · exact spanless_log _

theorem spanless_sendChunks (sql : String) (timeout : Option (Option Float))
    (chunks : List (List (List Value))) : Spanless (sendChunks sql timeout chunks) := by
  induction chunks with
  | nil => exact .done _
  | cons chunk chunks ih => exact (spanless_contact _).bind fun _ => ih

theorem spanless_tune (sql : String) : Spanless (s.tune sql) := by
  refine ((spanless_contact _).inScope .savepoint).settle ?_
  rintro (failure | value)
  · cases failure with
    | fault fault =>
      dsimp only
      split
      · exact spanless_log _
      · exact .done _
    | _ => exact .done _
  · exact .done _

theorem spanless_tuneAll (statements : List String) : Spanless (s.tuneAll statements) := by
  induction statements with
  | nil => exact .done _
  | cons sql statements ih => exact (s.spanless_tune sql).bind fun _ => ih

/-! ### Each call -/

theorem worksInSpan_insertRecords (records : List Record) :
    WorksInSpan "add_all" (s.insertRecords records) :=
  (s.schema.spanless_rowsNoted records).bind_worksInSpan fun _ => worksInSpan_operation
    (works_sendChunks _ _ _).inTransaction (spanless_sendChunks _ _ _).inTransaction
    (fun _ => (isAftermath_note rfl).bind fun _ => isAftermath_note rfl)
    fun _ => (spanless_measure _).bind fun _ => spanless_log _

theorem worksInSpan_addAll (insertion : Insertion) :
    WorksInSpan "add_all" (s.addAll insertion) := by
  rw [addAll_eq]
  refine insertion.spanless_chooseIds.bind_worksInSpan fun ids => ?_
  split
  · split
    · exact (Spanless.done _).worksInSpan
    · exact worksInSpan_ofExcept_bind fun records =>
        (s.worksInSpan_insertRecords records).bind_pure fun _ => ids
  · exact (Spanless.done _).worksInSpan

theorem worksInSpan_add (embedding : Value) (text : Option String)
    (metadata : List (String × Value)) (id : Value) :
    WorksInSpan "add_all" (s.add embedding text metadata id) := by
  rw [add_eq]
  exact (spanless_chooseId id).bind_worksInSpan fun id =>
    (s.worksInSpan_addAll _).bind_pure fun _ => id

theorem worksInSpan_search (request : SearchRequest) :
    WorksInSpan "search" (s.search request) :=
  worksInSpan_ofExcept_bind fun _ => worksInSpan_operation
    ((s.works_tuneAll _).bind fun _ => works_contact_statement _).inTransaction
    ((s.spanless_tuneAll _).bind fun _ => spanless_contact _).inTransaction
    (fun answer => s.isAftermath_search request answer)
    fun answer => (Spanless.done answer.items).bind fun _ => (Spanless.done _).bind fun _ =>
      (Spanless.done _).bind fun _ => (spanless_measure _).bind fun _ =>
        (spanless_log _).bind fun _ => .done _

theorem worksInSpan_getByIds (ids : Value) : WorksInSpan "get_by_ids" (s.getByIds ids) := by
  rw [getByIds]
  split
  · exact (Spanless.done _).worksInSpan
  · exact worksInSpan_ofExcept_bind fun _ => worksInSpan_ofExcept_bind fun _ =>
      worksInSpan_operation (works_contact_statement _).withConnection
        (spanless_contact _).withConnection s.isAftermath_getByIds
        fun answer => (Spanless.done answer.items).bind fun _ => .done _

theorem worksInSpan_removeAll (ids : Value) : WorksInSpan "remove_all" (s.removeAll ids) :=
  worksInSpan_ofExcept_bind fun _ => worksInSpan_ofExcept_bind fun count =>
    worksInSpan_operation (works_contact_statement _).inTransaction
      (spanless_contact _).inTransaction (s.isAftermath_removeAll count)
      fun status => ((Spanless.done (Metric.increase (.int (affectedRows status)))).bind fun _ =>
        spanless_measure _).bind fun _ => (spanless_log _).bind fun _ => .done _

theorem worksInSpan_applyIndex (index : IndexDefinition) (name : Option String)
    (concurrently : Bool) :
    WorksInSpan "apply_vector_index" (s.applyIndex index name concurrently) := by
  refine (s.spanless_warnDistance index).bind_worksInSpan fun _ => worksInSpan_operation
    (s.works_indexStatements index name concurrently).withConnection
    (Spanless.withConnection ?_)
    (fun _ => (isAftermath_note rfl).bind fun _ => isAftermath_pure _)
    fun _ => (spanless_log _).bind fun _ => .done _
  split
  · exact (spanless_contact _).bind fun _ => spanless_contact _
  · exact spanless_contact _

theorem worksInSpan_indexStatement {operation : String} (sql : String)
    {f : Value → Program Unit} (hafter : ∀ answer, IsAftermath (f answer))
    (hrest : ∀ answer, Spanless (f answer)) :
    WorksInSpan operation
      (s.operation operation [] (withConnection (statement .execute sql [] none)) >>= f) :=
  worksInSpan_operation (works_contact_statement _).withConnection
    (spanless_contact _).withConnection hafter hrest

end Store

/-! ### Calls -/

theorem Course.idle_or_entered {sent : List Statement} {name : String} {h : History}
    {ending : Option Failure} (hcourse : Course (.ok sent) (some name) h ending) :
    (sent = [] ∧ ending = none ∧ IsUntouched h) ∨
      ∃ attributes, .note (.spanEntered ("vectorstore." ++ name) attributes) ∈ h := by
  cases hcourse with
  | refused hbuilt => cases hbuilt
  | idle hbuilt huntouched =>
    cases hbuilt
    exact .inl ⟨rfl, rfl, huntouched⟩
  | worked _ _ _ _ hentered =>
    obtain ⟨attributes, hmem⟩ := hentered name rfl
    exact .inr ⟨attributes, List.mem_append_right _ hmem⟩

namespace Call

theorem worksInSpan_program {c : Call} {name : String} (hname : c.operation? = some name) :
    WorksInSpan name c.program := by
  cases c with
  | setUpTable schema size overwrite storeMetadata => cases hname
  | add store embedding text metadata id =>
    cases hname
    exact (store.worksInSpan_add embedding text metadata id).bind_pure _
  | addAll store insertion =>
    cases hname
    exact (store.worksInSpan_addAll insertion).bind_pure _
  | search store request =>
    cases hname
    exact (store.worksInSpan_search request).bind_pure _
  | findRelevant store embedding limit minScore filter =>
    cases hname
    have hsearch : WorksInSpan "search"
        (store.findRelevant embedding limit minScore filter) :=
      worksInSpan_ofExcept_bind fun request => store.worksInSpan_search request
    exact hsearch.bind_pure _
  | getByIds store ids =>
    cases hname
    exact (store.worksInSpan_getByIds ids).bind_pure _
  | remove store id =>
    cases hname
    exact (store.worksInSpan_removeAll (.list [id])).bind_pure _
  | removeAll store ids =>
    cases hname
    exact (store.worksInSpan_removeAll ids).bind_pure _
  | applyIndex store index indexName concurrently =>
    cases hname
    exact (store.worksInSpan_applyIndex index indexName concurrently).bind_pure _
  | dropIndex store indexName =>
    cases hname
    exact store.worksInSpan_indexStatement _ (fun _ => isAftermath_note rfl) fun _ => spanless_log _
  | reindex store indexName =>
    cases hname
    exact store.worksInSpan_indexStatement _ (fun _ => isAftermath_pure ()) fun _ => .done _

/-- The spans of a call that is an operation. None is finished if the statements of the call cannot be built, or if there is nothing to do. Otherwise exactly one is finished, with the name of the operation, and it is marked only if a failure leaves the work that is not a cancellation: such a failure is listed twice, and the description of the status is its class before its message. -/
theorem spans_run {σ : Type} (c : Call) {name : String} (hname : c.operation? = some name)
    (server : Server σ) (state : σ) (m : Memory) :
    let run := c.program.run server state m
    let escaping := escaped (failure? run.result)
    (∀ failure, c.statements m.issued = .error failure → Trace.finished run.history = []) ∧
    ∀ sent, c.statements m.issued = .ok sent →
      (sent = [] ∧ run.result = .ok () ∧ Trace.finished run.history = []) ∨
        ∃ span, Trace.finished run.history = [span] ∧ span.name = "vectorstore." ++ name ∧
          span.parent = none ∧
          ((∀ failure ∈ escaping, failure.isCancellation = true) → span.marks = .fresh) ∧
          ∀ failure ∈ escaping, failure.isCancellation = false →
            span.marks = ⟨[failure, failure], .error (failure.name ++ ": " ++ failure.message)⟩ := by
  intro run escaping
  have hcourse : Course (c.statements m.issued) c.operation? run.history (failure? run.result) :=
    c.course_run server state m
  have hspans := worksInSpan_program hname m _ _ (path_run server c.program state m)
  refine ⟨fun failure hbuilt => ?_, fun sent hbuilt => ?_⟩
  · rw [hbuilt] at hcourse
    exact Trace.finished_of_not_entered hcourse.of_built_error.2.spans
  · rw [hbuilt, hname] at hcourse
    rcases hcourse.idle_or_entered with ⟨hsent, hending, hidle⟩ | ⟨attributes, hentered⟩
    · obtain ⟨⟨⟩, hresult⟩ := failure?_eq_none_iff.mp hending
      exact .inl ⟨hsent, hresult, Trace.finished_of_not_entered hidle.spans⟩
    · rcases hspans with hspanless | hworked
      · cases hspanless _ hentered
      · exact .inr hworked.finished_eq

/-- A lookup is cancelled while the server fetches the rows, and nothing is marked on its span. -/
theorem spans_run_cancelled :
    let s : Store := ⟨⟨Draft.ofTable "t", by decide⟩, .cosine, none,
      ⟨⟨4, by decide⟩, none, ⟨2, by decide⟩⟩⟩
    let server : Server Unit := fun _ contact => match contact with
      | .statement _ => (.error ⟨.cancelled, none, none, none, by decide⟩, ())
      | _ => (.ok .null, ())
    let lookup : Call := .getByIds s (.list [.text "a"])
    let run := lookup.program.run server () ⟨true, 0, true⟩
    ∃ span, Trace.finished run.history = [span] ∧ span.name = "vectorstore.get_by_ids" ∧
      span.parent = none ∧ span.marks = .fresh := by
  intro s server lookup run
  have hcancelled : run.result = .error (.fault ⟨.cancelled, none, none, none, by decide⟩) := by
    with_unfolding_all rfl
  have hbuilt : ∃ sent, lookup.statements 0 = .ok sent ∧ sent.length = 1 :=
    ⟨_, by with_unfolding_all rfl, rfl⟩
  obtain ⟨sent, hsent, hlength⟩ := hbuilt
  obtain ⟨-, hspans⟩ := lookup.spans_run rfl server () ⟨true, 0, true⟩
  rcases hspans sent hsent with ⟨rfl, -⟩ | ⟨span, hfinished, hname, hparent, hfresh, -⟩
  · cases hlength
  · refine ⟨span, hfinished, hname, hparent, hfresh ?_⟩
    intro failure hfailure
    rw [hcancelled] at hfailure
    cases hfailure
    rfl

/-- A deletion is stopped by the server. The failure is listed twice on its span, and its message is not the description. -/
theorem not_marked_once_remove :
    let s : Store := ⟨⟨Draft.ofTable "documents", by decide⟩, .cosine, none,
      ⟨⟨4, by decide⟩, some ⟨60, by decide⟩, ⟨500, by decide⟩⟩⟩
    let server : Server Unit := fun _ contact => match contact with
      | .statement _ => (.error ⟨.queryCanceled, some "timeout", none, none, by decide⟩, ())
      | _ => (.ok .null, ())
    let removal : Call := .remove s (.text "a")
    let run := removal.program.run server () ⟨true, 0, true⟩
    let failure : Failure :=
      .execution s.table "remove_all" ⟨.queryCanceled, some "timeout", none, none, by decide⟩
    run.result = .error failure ∧
      ¬∀ span ∈ Trace.finished run.history,
        span.events = [failure] ∧ span.description = some failure.message := by
  intro s server removal run failure
  refine ⟨by with_unfolding_all rfl, fun hall => ?_⟩
  have hlisted : (Trace.finished run.history).map (fun span => span.events.length) = [2] := by
    decide +kernel
  obtain ⟨span, hspan⟩ := List.exists_mem_of_length_pos (l := Trace.finished run.history)
    (by rw [← List.length_map (fun span => span.events.length), hlisted]; decide)
  have htwice : span.events.length = 2 :=
    List.mem_singleton.mp (hlisted ▸ List.mem_map_of_mem hspan)
  rw [(hall span hspan).1] at htwice
  cases htwice

end Call

end VectorTable
