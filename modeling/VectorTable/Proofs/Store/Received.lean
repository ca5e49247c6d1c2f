import VectorTable.Proofs.Store.Handling

/-!
# What callers receive

Every call on a table and the opening of a store has a site: the table it works on and the name under which faults of the database are received. Whatever the server does, the caller receives the fault in flight at the end and no other, accounted for at that site exactly if it is a fault of the database. A fault that is raised last is in flight at the end, unless it is an answer to a setting that a search tries; but a fault that strikes before may get lost when a savepoint, a transaction or a connection cannot be left in order.
-/

namespace VectorTable

open Program

def Call.site : Call → Site
  | add store .. | addAll store _ => ⟨store.table, "add_all"⟩
  | search store _ | findRelevant store .. => ⟨store.table, "search"⟩
  | getByIds store _ => ⟨store.table, "get_by_ids"⟩
  | remove store _ | removeAll store _ => ⟨store.table, "remove_all"⟩
  | applyIndex store .. => ⟨store.table, "apply_vector_index"⟩
  | dropIndex store _ => ⟨store.table, "drop_vector_index"⟩
  | reindex store _ => ⟨store.table, "reindex"⟩
  | setUpTable schema .. => ⟨schema.qualifiedTable, "init_table"⟩

/-- All that is done on a table: the calls on a store, the setting up of its table, and the opening of a store with settings that have been read. -/
inductive Task
  | call (c : Call)
  | create (schema : Schema) (ignored : Option (List String)) (distance : Distance)
    (tuning : Option Tuning) (settings : Except (List Setting.FieldFault) Setting.Store)

theorem Call.handles_program (c : Call) (m : Memory) :
    Handles c.site.received m (c.statements m.issued) c.program := by
  cases c with
  | add store embedding text metadata id => exact (store.handles_add m _ _ _ _).bind_pure _
  | addAll store insertion => exact (store.handles_addAll m insertion).bind_pure _
  | search store request => exact (store.handles_search m request).bind_pure _
  | findRelevant store embedding limit minScore filter =>
    have hsearch : Handles (Site.received ⟨store.table, "search"⟩) m
        (SearchRequest.make embedding (store.limitOrDefault limit) minScore filter >>=
          store.searchStatements) (store.findRelevant embedding limit minScore filter) :=
      handles_ofExcept_bind fun request m' => store.handles_search m' request
    exact hsearch.bind_pure _
  | getByIds store ids => exact (store.handles_getByIds m ids).bind_pure _
  | remove store id => exact (store.handles_removeAll m (.list [id])).bind_pure _
  | removeAll store ids => exact (store.handles_removeAll m ids).bind_pure _
  | applyIndex store index name concurrently =>
    exact (store.handles_applyIndex m index name concurrently).bind_pure _
  | dropIndex store name => exact store.handles_indexStatement m _ fun _ => isAftermath_note rfl
  | reindex store name => exact store.handles_indexStatement m _ fun _ => isAftermath_pure ()
  | setUpTable schema size overwrite storeMetadata =>
    exact TableSetup.handles_create schema size overwrite storeMetadata m

/-! ### What building fails for -/

namespace Store

variable (s : Store)

theorem failsLocally_addAllStatements (insertion : Insertion) (ids : List Value) :
    FailsLocally (s.addAllStatements insertion ids) := by
  rw [addAllStatements]
  split
  · split
    · exact failsLocally_ok []
    · have hrows : ∀ records : List Record, OnlyMisfits (records.mapM s.schema.row) :=
        onlyMisfits_mapM s.schema.onlyMisfits_row
      exact ((onlyMisfits_records _ _ _ _).bind fun records =>
        (hrows records).bind fun _ => onlyMisfits_ok _).failsLocally
  · exact failsLocally_error rfl

theorem failsLocally_searchStatements (request : SearchRequest) :
    FailsLocally (s.searchStatements request) :=
  (s.schema.failsLocally_search _ request).bind fun _ => failsLocally_ok _

theorem failsLocally_getByIdsStatements (ids : Value) :
    FailsLocally (s.getByIdsStatements ids) := by
  rw [getByIdsStatements]
  split
  · exact failsLocally_ok []
  · exact (s.schema.failsLocally_getByIds ids).bind fun _ =>
      ids.onlyMisfits_length.failsLocally.bind fun _ => failsLocally_ok _

theorem failsLocally_removeAllStatements (ids : Value) :
    FailsLocally (s.removeAllStatements ids) :=
  (s.schema.failsLocally_delete ids).bind fun _ =>
    ids.onlyMisfits_length.failsLocally.bind fun _ => failsLocally_ok _

end Store

theorem Call.failsLocally_statements (c : Call) (issued : Nat) :
    FailsLocally (c.statements issued) := by
  cases c with
  | add store _ _ _ _ | addAll store _ => exact store.failsLocally_addAllStatements _ _
  | search store request => exact store.failsLocally_searchStatements request
  | findRelevant store embedding limit minScore filter =>
    exact (SearchRequest.failsLocally_make _ _ _ _).bind store.failsLocally_searchStatements
  | getByIds store ids => exact store.failsLocally_getByIdsStatements ids
  | remove store _ | removeAll store _ => exact store.failsLocally_removeAllStatements _
  | applyIndex _ _ _ _ | dropIndex _ _ | reindex _ _ => exact failsLocally_ok _
  | setUpTable schema size _ storeMetadata =>
    exact (schema.failsLocally_createTable size storeMetadata).bind fun _ => failsLocally_ok _

/-! ### All tasks -/

namespace Task

def program : Task → Program Unit
  | call c => c.program
  | create schema ignored distance tuning settings => do
    let _ ← Store.create schema ignored distance tuning (settings.mapError .invalidSettings)

def site : Task → Site
  | call c => c.site
  | create schema .. => ⟨schema.qualifiedTable, "introspect"⟩

/-- The statements that a task builds, when so many identifiers have been issued before. -/
def statements (issued : Nat) : Task → Except Failure (List Statement)
  | call c => c.statements issued
  | create schema ignored _ _ _ =>
    if schema.declaresAndIgnores ignored then .error (.refused .columnsAndIgnored)
    else .ok [Store.introspection schema]

theorem handles_program (t : Task) (m : Memory) :
    Handles t.site.received m (t.statements m.issued) t.program := by
  cases t with
  | call c => exact c.handles_program m
  | create schema ignored distance tuning settings =>
    have hsettings : FailsLocally (settings.mapError .invalidSettings) := by
      cases settings with
      | ok loaded => exact failsLocally_ok loaded
      | error faults => exact failsLocally_error rfl
    exact (Store.handles_create m schema ignored distance tuning hsettings).bind_pure _

theorem failsLocally_statements (t : Task) (issued : Nat) : FailsLocally (t.statements issued) := by
  cases t with
  | call c => exact c.failsLocally_statements issued
  | create schema ignored _ _ _ =>
    rw [statements]
    split
    · exact failsLocally_error rfl
    · exact failsLocally_ok _

/-- The caller receives the fault in flight at the end, which is one that the server gave as a reply, and any fault that is raised with nothing raised after it, unless it is passed over at a savepoint. A failure that accounts for a fault names the site of the task and has a fault of the database in flight as its cause; a fault that is received as it is, is in flight and none of the database. Only without a connection is the want of one received, and then it is received whenever there is a statement to be sent. -/
theorem received_run {σ : Type} (t : Task) (server : Server σ) (state : σ) (m : Memory) :
    let run := t.program.run server state m
    (∀ fault, inFlight (exchanges run.history) = some fault →
      run.result = .error (t.site.received fault) ∧
        ∃ contact, (contact, .error fault) ∈ exchanges run.history) ∧
    (∀ first contact fault rest, exchanges run.history = first ++ (contact, .error fault) :: rest →
      (fault.isAnswer = true → contact.isSavepoint = false) → LetsPass fault rest →
      run.result = .error (t.site.received fault)) ∧
    (∀ table operation fault, run.result = .error (.execution table operation fault) →
      table = t.site.table ∧ operation = t.site.operation ∧ fault.isDatabase = true ∧
        inFlight (exchanges run.history) = some fault) ∧
    (∀ fault, run.result = .error (.fault fault) →
      fault.isDatabase = false ∧ inFlight (exchanges run.history) = some fault) ∧
    (m.connected = true → run.result ≠ .error .notConnected) ∧
    (m.connected = false → exchanges run.history = [] ∧
      ∀ first rest, t.statements m.issued = .ok (first :: rest) →
        run.result = .error .notConnected) := by
  intro run
  have hhandling : Handling t.site.received (t.statements m.issued) m.connected run.history
      (failure? run.result) := t.handles_program m _ _ (path_run server t.program state m)
  have hserver : ∀ failure, run.result = .error failure → failure.isLocal = false →
      (m.connected = false ∧ failure = .notConnected) ∨ ∃ fault,
        inFlight (exchanges run.history) = some fault ∧ failure = t.site.received fault := by
    intro failure hresult hfailure
    rw [failure?_eq_some_iff.mpr hresult] at hhandling
    exact hhandling.of_not_isLocal (t.failsLocally_statements m.issued) hfailure
  refine ⟨fun fault hfault => ?_, fun first contact fault rest hhistory hcontact hrest => ?_,
    fun table operation fault hresult => ?_, fun fault hresult => ?_, fun hconnected hresult => ?_,
    fun hconnected => ?_⟩
  · exact ⟨failure?_eq_some_iff.mp (hhandling.of_inFlight hfault), exists_mem_of_inFlight hfault⟩
  · have hfault : inFlight (exchanges run.history) = some fault := by
      rw [hhistory]
      exact inFlight_eq_some hcontact hrest
    exact failure?_eq_some_iff.mp (hhandling.of_inFlight hfault)
  · rcases hserver _ hresult rfl with ⟨-, heq⟩ | ⟨cause, hfault, heq⟩
    · cases heq
    · obtain ⟨htable, hoperation, rfl, hdatabase⟩ := Site.received_eq_execution_iff.mp heq.symm
      exact ⟨htable, hoperation, hdatabase, hfault⟩
  · rcases hserver _ hresult rfl with ⟨-, heq⟩ | ⟨cause, hfault, heq⟩
    · cases heq
    · obtain ⟨rfl, hother⟩ := Site.received_eq_fault_iff.mp heq.symm
      exact ⟨hother, hfault⟩
  · rcases hserver _ hresult rfl with ⟨hunconnected, -⟩ | ⟨cause, -, heq⟩
    · rw [hconnected] at hunconnected
      cases hunconnected
    · exact t.site.received_ne_notConnected cause heq.symm
  · rw [hconnected] at hhandling
    obtain ⟨hsilent, hending⟩ := hhandling.of_unconnected
    exact ⟨hsilent, fun first rest hbuilt => failure?_eq_some_iff.mp (hending first rest hbuilt)⟩

/-- Rows cannot be deleted for a missing key, and then the connection is lost: the caller only learns of the latter. -/
theorem received_run_lostConnection :
    let s : Store := ⟨⟨Draft.ofTable "t", by decide⟩, .cosine, none,
      ⟨⟨4, by decide⟩, none, ⟨2, by decide⟩⟩⟩
    let missing : Fault := ⟨.key, some "k", none, none, by decide⟩
    let lost : Fault := ⟨.connectionDoesNotExist, some "connection lost", none, none, by decide⟩
    let server : Server Unit := fun _ contact => match contact with
      | .statement _ => (.error missing, ())
      | .undo _ => (.error lost, ())
      | _ => (.ok .null, ())
    let removal : Task := .call (.remove s (.text "a"))
    let run := removal.program.run server () ⟨true, 0, true⟩
    inFlight (exchanges run.history) = some lost ∧
      run.result = .error (.execution s.table "remove_all" lost) := by
  intro s missing lost server removal run
  have hfault : inFlight (exchanges run.history) = some lost := by with_unfolding_all rfl
  obtain ⟨hreceived, -⟩ := removal.received_run server () ⟨true, 0, true⟩
  exact ⟨hfault, (hreceived lost hfault).1⟩

/-- A search is cancelled while a setting is tried, and the savepoint cannot be undone: the cancellation is lost, and the search ends as if nothing had happened. -/
theorem not_received_lostCancellation :
    let s : Store := ⟨⟨Draft.ofTable "documents", by decide⟩, .cosine,
      some (.hnsw ⟨40, by decide⟩), ⟨⟨4, by decide⟩, none, ⟨2, by decide⟩⟩⟩
    let request : SearchRequest := ⟨.list [.float 0.5], .int 1, .null, none, rfl, rfl⟩
    let cancellation : Fault := ⟨.cancelled, none, none, none, by decide⟩
    let server : Server Unit := fun _ contact => match contact with
      | .statement ⟨.execute, _, _, _⟩ => (.error cancellation, ())
      | .undo .savepoint =>
        (.error ⟨.postgres, some "no such savepoint", none, none, by decide⟩, ())
      | .statement _ => (.ok (.list []), ())
      | _ => (.ok .null, ())
    let search : Task := .call (.search s request)
    let run := search.program.run server () ⟨true, 0, true⟩
    (.statement (s.tuningStatement "SET LOCAL hnsw.ef_search = 40"), .error cancellation) ∈
        exchanges run.history ∧
      search.site.received cancellation = .fault cancellation ∧ run.result = .ok () := by
  intro s request cancellation server search run
  have hfourth : (exchanges run.history)[3]? = some
      (.statement (s.tuningStatement "SET LOCAL hnsw.ef_search = 40"), .error cancellation) := by
    with_unfolding_all rfl
  exact ⟨List.mem_of_getElem? hfourth, rfl, by with_unfolding_all rfl⟩

end Task

end VectorTable
