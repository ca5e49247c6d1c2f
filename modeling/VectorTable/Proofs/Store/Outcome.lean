import VectorTable.Proofs.Store.Course

/-!
# How operations are counted

An operation that has entered its span is counted at most once, and the count follows the work on the connection, not the whole call. Success is counted as soon as the work is done, even if the answer cannot be made into matches afterwards; an error is counted for faults of the database only, so work that ends for another reason is not counted at all. An operation that has not entered its span is never counted.
-/

namespace VectorTable

open Program

theorem Course.operationOutcomes_eq {built : Except Failure (List Statement)} {name : String}
    {h : History} {ending : Option Failure} (hcourse : Course built (some name) h ending) :
    ((∀ attributes, .note (.spanEntered ("vectorstore." ++ name) attributes) ∉ h) ∧
        Metric.operationOutcomes (Metric.measurements h) = []) ∨
      ((∃ attributes, .note (.spanEntered ("vectorstore." ++ name) attributes) ∈ h) ∧
        Metric.operationOutcomes (Metric.measurements h) = counted name ending ∧
        ∀ failure ∈ ending, failure.isLate = true) := by
  cases hcourse with
  | refused _ huntouched | idle _ huntouched =>
    exact .inl ⟨huntouched.spans _, by rw [huntouched.measurements]; rfl⟩
  | worked _ huntouched _ hlate hentered hcounted =>
    obtain ⟨attributes, hmem⟩ := hentered name rfl
    refine .inr ⟨⟨attributes, List.mem_append_right _ hmem⟩, ?_, hlate⟩
    rw [Metric.measurements_append, huntouched.measurements, List.nil_append, hcounted]
    simp

/-- A call that enters its span is counted by what its work on the connection came to: a success if the call returns or only fails to make sense of what it was given, an error if it fails for a fault of the database, and not at all if it fails for another fault or for want of a connection. A call that does not enter its span is not counted. -/
theorem Call.outcomes_run {σ : Type} (c : Call) {name : String} (hname : c.operation? = some name)
    (server : Server σ) (state : σ) (m : Memory) :
    let run := c.program.run server state m
    let outcomes := Metric.operationOutcomes (Metric.measurements run.history)
    let entered := ∃ attributes,
      .note (.spanEntered ("vectorstore." ++ name) attributes) ∈ run.history
    (¬entered → outcomes = []) ∧
    (entered →
      (outcomes = [(name, "success")] ↔
        run.result = .ok () ∨ ∃ cause, run.result = .error (.misfit cause)) ∧
      (outcomes = [(name, "error")] ↔
        ∃ table operation fault, run.result = .error (.execution table operation fault)) ∧
      (outcomes = [] ↔
        (∃ fault, run.result = .error (.fault fault)) ∨ run.result = .error .notConnected)) := by
  intro run outcomes entered
  have hcourse : Course (c.statements m.issued) (some name) run.history (failure? run.result) :=
    hname ▸ c.course_run server state m
  rcases hcourse.operationOutcomes_eq with ⟨hnever, hnone⟩ | ⟨hentered, hcounted, hlate⟩
  · exact ⟨fun _ => hnone, fun ⟨attributes, hmem⟩ => absurd hmem (hnever attributes)⟩
  · refine ⟨fun hnot => absurd hentered hnot, fun _ => ?_⟩
    have houtcomes : outcomes = counted name (failure? run.result) := hcounted
    rw [houtcomes]
    cases hresult : run.result with
    | ok a => simp [failure?, counted]
    | error failure =>
      rw [hresult] at hlate
      have hfailure := hlate failure rfl
      cases failure with
      | execution _ _ _ | fault _ | notConnected | misfit _ => simp [failure?, counted]
      | _ => cases hfailure

/-- The task is cancelled while rows are being deleted: nothing is counted. -/
theorem Call.outcomes_run_cancelled :
    let s : Store := ⟨⟨Draft.ofTable "t", by decide⟩, .cosine, none,
      ⟨⟨4, by decide⟩, none, ⟨2, by decide⟩⟩⟩
    let server : Server Unit := fun _ contact => match contact with
      | .statement _ => (.error ⟨.cancelled, none, none, none, by decide⟩, ())
      | _ => (.ok .null, ())
    let removal : Call := .removeAll s (.list [.text "a"])
    let run := removal.program.run server () ⟨true, 0, true⟩
    run.result = .error (.fault ⟨.cancelled, none, none, none, by decide⟩) ∧
      Metric.operationOutcomes (Metric.measurements run.history) = [] := by
  intro s server removal run
  have hresult : run.result = .error (.fault ⟨.cancelled, none, none, none, by decide⟩) := by
    with_unfolding_all rfl
  obtain ⟨hnone, hcounted⟩ := removal.outcomes_run rfl server () ⟨true, 0, true⟩
  refine ⟨hresult, ?_⟩
  by_cases hentered : ∃ attributes,
      .note (.spanEntered ("vectorstore." ++ "remove_all") attributes) ∈ run.history
  · exact (hcounted hentered).2.2.mpr (.inl ⟨_, hresult⟩)
  · exact hnone hentered

/-- A search that fails because the metadata of a row are no JSON is counted as a success. -/
theorem Call.outcomes_search_badMetadata :
    let s : Store := ⟨⟨Draft.ofTable "t", by decide⟩, .cosine, none,
      ⟨⟨4, by decide⟩, none, ⟨2, by decide⟩⟩⟩
    let server : Server Unit := fun _ contact => match contact with
      | .statement _ => (.ok (.list [.dictionary [(.text "langchain_id", .text "a"),
          (.text "langchain_metadata", .text "\x7b")]]), ())
      | _ => (.ok .null, ())
    let search : Call := .search s ⟨.list [.float 0], .int 1, .null, none, rfl, rfl⟩
    let run := search.program.run server () ⟨true, 0, true⟩
    run.result ≠ .ok () ∧
      Metric.operationOutcomes (Metric.measurements run.history) = [("search", "success")] := by
  intro s server search run
  obtain ⟨failure, hfailure⟩ : ∃ failure, run.result = .error failure :=
    ⟨_, by with_unfolding_all rfl⟩
  refine ⟨?_, by with_unfolding_all rfl⟩
  rw [hfailure]
  exact nofun

end VectorTable
