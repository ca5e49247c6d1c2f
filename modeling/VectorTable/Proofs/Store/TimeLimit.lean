import VectorTable.Proofs.Store.Refusal

/-!
# Time limits

The settings of a store say how long a statement may take. Every statement that reads or writes rows is sent with this limit, those that tune a search and all chunks of an insertion included. The statements that create, drop and rebuild an index are sent with no limit of their own, so they may take as long as the pool lets them, whatever the settings say.
-/

namespace VectorTable

open Program

variable {α : Type} {limit : Option (Option Float)}

/-- All statements that are built, if any are, have the same time limit. -/
def HaveLimit (limit : Option (Option Float)) (built : Except Failure (List Statement)) : Prop :=
  ∀ sent, built = .ok sent → ∀ statement ∈ sent, statement.timeout = limit

theorem haveLimit_ok {sent : List Statement} (h : ∀ statement ∈ sent, statement.timeout = limit) :
    HaveLimit limit (.ok sent) := by
  rintro _ ⟨⟩
  exact h

theorem haveLimit_error {failure : Failure} : HaveLimit limit (.error failure) := by
  rintro _ ⟨⟩

theorem haveLimit_bind {x : Except Failure α} {f : α → Except Failure (List Statement)}
    (hf : ∀ a, HaveLimit limit (f a)) : HaveLimit limit (x >>= f) := by
  cases x with
  | ok a => exact hf a
  | error failure => exact haveLimit_error

/-! ### Statements on rows -/

namespace Store

variable (s : Store)

theorem haveLimit_addAllStatements (insertion : Insertion) (ids : List Value) :
    HaveLimit s.timeout (s.addAllStatements insertion ids) := by
  rw [addAllStatements]
  split
  · split
    · exact haveLimit_ok (List.forall_mem_nil _)
    · apply haveLimit_bind
      intro records
      apply haveLimit_bind
      intro rows
      apply haveLimit_ok
      intro statement hstatement
      obtain ⟨chunk, -, rfl⟩ := List.mem_map.mp hstatement
      rfl
  · exact haveLimit_error

theorem haveLimit_searchStatements (request : SearchRequest) :
    HaveLimit s.timeout (s.searchStatements request) := by
  apply haveLimit_bind
  intro query
  apply haveLimit_ok
  intro statement hstatement
  rcases List.mem_append.mp hstatement with htuning | hquery
  · obtain ⟨sql, -, rfl⟩ := List.mem_map.mp htuning
    rfl
  · rw [List.mem_singleton.mp hquery]
    rfl

theorem haveLimit_queryStatement (kind : StatementKind) (query : Query) :
    HaveLimit s.timeout (.ok [s.queryStatement kind query]) :=
  haveLimit_ok (List.forall_mem_singleton.mpr rfl)

theorem haveLimit_getByIdsStatements (ids : Value) :
    HaveLimit s.timeout (s.getByIdsStatements ids) := by
  rw [getByIdsStatements]
  split
  · exact haveLimit_ok (List.forall_mem_nil _)
  · exact haveLimit_bind fun query => haveLimit_bind fun _ =>
      s.haveLimit_queryStatement .fetch query

theorem haveLimit_removeAllStatements (ids : Value) :
    HaveLimit s.timeout (s.removeAllStatements ids) :=
  haveLimit_bind fun query => haveLimit_bind fun _ => s.haveLimit_queryStatement .execute query

end Store

/-! ### Statements on tables and indexes -/

theorem haveLimit_plainStatements (texts : List String) :
    HaveLimit none (.ok (texts.map plainStatement)) := by
  apply haveLimit_ok
  intro statement hstatement
  obtain ⟨sql, -, rfl⟩ := List.mem_map.mp hstatement
  rfl

/-! ### Calls -/

namespace Call

/-- The time limit of the statements of a call: that of the settings for rows, and none for tables and indexes. -/
def timeLimit : Call → Option (Option Float)
  | add store .. | addAll store _ | search store _ | findRelevant store .. | getByIds store _
  | remove store _ | removeAll store _ => some store.settings.timeLimit
  | applyIndex .. | dropIndex .. | reindex .. | setUpTable .. => none

theorem haveLimit_statements (c : Call) (issued : Nat) :
    HaveLimit c.timeLimit (c.statements issued) := by
  cases c with
  | add store embedding text metadata id => exact store.haveLimit_addAllStatements _ _
  | addAll store insertion => exact store.haveLimit_addAllStatements insertion _
  | search store request => exact store.haveLimit_searchStatements request
  | findRelevant store embedding limit minScore filter =>
    exact haveLimit_bind fun request => store.haveLimit_searchStatements request
  | getByIds store ids => exact store.haveLimit_getByIdsStatements ids
  | remove store id => exact store.haveLimit_removeAllStatements _
  | removeAll store ids => exact store.haveLimit_removeAllStatements ids
  | applyIndex store index name concurrently => exact haveLimit_plainStatements _
  | dropIndex store name => exact haveLimit_plainStatements [_]
  | reindex store name => exact haveLimit_plainStatements [_]
  | setUpTable schema size overwrite storeMetadata =>
    exact haveLimit_bind fun pieces => haveLimit_plainStatements _

/-- What a call sends has been built before. -/
theorem exists_statements_of_mem_asked {σ : Type} {c : Call} {server : Server σ} {state : σ}
    {m : Memory} {statement : Statement}
    (hasked : statement ∈ asked (c.program.run server state m).history) :
    ∃ sent, c.statements m.issued = .ok sent ∧ statement ∈ sent := by
  have hcourse := c.course_run server state m
  cases hbuilt : c.statements m.issued with
  | error failure =>
    rw [hbuilt] at hcourse
    rw [asked_of_exchanges_eq_nil hcourse.of_built_error.2.contacts] at hasked
    cases hasked
  | ok sent =>
    rw [hbuilt] at hcourse
    exact ⟨sent, rfl, hcourse.asked_sublist.subset hasked⟩

/-- Whatever the server does, every statement that a call sends has the time limit of the call: the one of the settings if the call is about rows, and none if it is about an index. -/
theorem timeLimit_run {σ : Type} (c : Call) (server : Server σ) (state : σ) (m : Memory) :
    ∀ statement ∈ asked (c.program.run server state m).history,
      statement.timeout = c.timeLimit := by
  intro statement hasked
  obtain ⟨sent, hbuilt, hsent⟩ := exists_statements_of_mem_asked hasked
  exact c.haveLimit_statements m.issued sent hbuilt statement hsent

/-- A setting that the server rejects and the search after it have half a minute each. -/
theorem timeLimit_run_tuned :
    let s : Store := ⟨⟨Draft.ofTable "t", by decide⟩, .cosine, some (.hnsw ⟨40, by decide⟩),
      ⟨⟨4, by decide⟩, some ⟨30, by decide⟩, ⟨2, by decide⟩⟩⟩
    let server : Server Unit := fun _ contact => match contact with
      | .statement ⟨.execute, _, _, _⟩ =>
        (.error ⟨.postgres, some "rejected", none, none, by decide⟩, ())
      | .statement _ => (.ok (.list []), ())
      | _ => (.ok .null, ())
    let search : Call := .search s ⟨.list [.float 0], .int 1, .null, none, rfl, rfl⟩
    let sent := asked (search.program.run server () ⟨true, 0, true⟩).history
    sent.length = 2 ∧ ∀ statement ∈ sent, statement.timeout = some (some 30) := by
  intro s server search sent
  exact ⟨by decide +kernel, search.timeLimit_run server () ⟨true, 0, true⟩⟩

/-- An index is dropped without the time limit of the settings. -/
theorem not_timeLimit_dropIndex :
    let s : Store := ⟨⟨Draft.ofTable "documents", by decide⟩, .cosine, none,
      ⟨⟨4, by decide⟩, some ⟨60, by decide⟩, ⟨500, by decide⟩⟩⟩
    let server : Server Unit := fun _ _ => (.ok .null, ())
    let removal : Call := .dropIndex s none
    let sent := asked (removal.program.run server () ⟨true, 0, true⟩).history
    ¬∀ statement ∈ sent, statement.timeout = some s.settings.timeLimit := by
  intro s server removal sent hall
  have hlimits : sent.map Statement.timeout = [none] := by with_unfolding_all rfl
  have hnone : none ∈ sent.map Statement.timeout := by
    rw [hlimits]
    exact List.mem_cons_self
  obtain ⟨statement, hsent, hlimit⟩ := List.mem_map.mp hnone
  have hsettings := hall statement hsent
  rw [hlimit] at hsettings
  cases hsettings

end Call

end VectorTable
