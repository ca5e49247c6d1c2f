import VectorTable.Proofs.Metric.Measurements
import VectorTable.Proofs.Program.Ledger
import VectorTable.Store.Basic

/-!
# The paths of an operation

An operation does its work in a span and counts its success; if the work fails with a fault of the database, the operation is counted as an error, reported, and fails with a failure of its own. All this is noted, so an operation contacts the server exactly as its work does.
-/

namespace VectorTable

open Program

variable {α : Type}

namespace Program

theorem path_inSpan {name : String} {attributes : Attributes} {work : Program α} {m : Memory}
    {h : History} {r : Except Failure α} (hpath : Path (inSpan name attributes work) m h r) :
    (∃ a hw, Path work m hw (.ok a) ∧ r = .ok a ∧
      h = .note (.spanEntered name attributes) :: hw ++ [.note (.spanLeft none)]) ∨
      ∃ failure hw, Path work m hw (.error failure) ∧ r = .error failure ∧
        h = .note (.spanEntered name attributes) :: hw ++ [.note (.spanLeft (some failure))] := by
  obtain ⟨rest, rfl, hrest⟩ := path_tell_iff.mp hpath
  obtain ⟨hw, hleft, result, rfl, hwork, hend⟩ := path_settle_iff.mp hrest
  cases result with
  | ok a =>
    obtain ⟨last, rfl, hlast⟩ := path_tell_iff.mp hend
    obtain ⟨rfl, rfl⟩ := path_done_iff.mp hlast
    exact .inl ⟨a, hw, hwork, rfl, rfl⟩
  | error failure =>
    obtain ⟨last, rfl, hlast⟩ := path_tell_iff.mp hend
    obtain ⟨rfl, rfl⟩ := path_done_iff.mp hlast
    exact .inr ⟨failure, hw, hwork, rfl, rfl⟩

/-- Accounting for faults adds nothing to the history and changes nothing but faults of the database. -/
theorem path_accountFor_eq {table operation : String} {work : Program α} {m : Memory}
    {h : History} {r : Except Failure α} (hpath : Path (accountFor table operation work) m h r) :
    ∃ result, Path work m h result ∧ r = result.mapError fun
      | .fault fault =>
        if fault.isDatabase then .execution table operation fault else .fault fault
      | failure => failure := by
  obtain ⟨hw, hend, result, rfl, hwork, hlast⟩ := path_settle_iff.mp hpath
  have hdone : hend = [] ∧ r = result.mapError fun
      | .fault fault =>
        if fault.isDatabase then .execution table operation fault else .fault fault
      | failure => failure := by
    cases result with
    | ok a => exact path_done_iff.mp hlast
    | error failure =>
      cases failure with
      | fault fault =>
        show hend = [] ∧
          r = .error (if fault.isDatabase then .execution table operation fault else .fault fault)
        cases hfault : fault.isDatabase <;> simp only [hfault] at hlast ⊢ <;>
          exact path_done_iff.mp hlast
      | _ => exact path_done_iff.mp hlast
  rw [hdone.1, List.append_nil]
  exact ⟨result, hwork, hdone.2⟩

end Program

namespace Store

def failureOf (s : Store) (operation : String) : Failure → Failure
  | .fault fault =>
    if fault.isDatabase then .execution s.table operation fault else .fault fault
  | failure => failure

/-- What is noted of work that fails before the span of its operation is left. -/
def failureNotes (s : Store) (operation : String) : Failure → History
  | .fault fault =>
    if fault.isDatabase then
      [.note (.measured (Metric.completed operation "error")),
        .note (.log (Log.event logger .error "Vector store operation failed"
          [tableField s.schema, ("operation", .text operation), ("error", .text fault.text)]))]
    else []
  | _ => []

def operationStart (s : Store) (name : String) (attributes : Attributes) : Event :=
  .note (.spanEntered (Trace.operationSpan name s.table attributes).1
    (Trace.operationSpan name s.table attributes).2)

theorem path_reportFault {s : Store} {operation : String} {fault : Fault}
    (hfault : fault.isDatabase = true) {m : Memory} {h : History} {r : Except Failure α}
    (hpath : Path (s.reportFault operation fault) m h r) :
    h = s.failureNotes operation (.fault fault) ∧
      r = .error (s.failureOf operation (.fault fault)) := by
  obtain ⟨rest, rfl, hrest⟩ := path_tell_iff.mp hpath
  obtain ⟨last, rfl, hlast⟩ := path_tell_iff.mp hrest
  obtain ⟨rfl, rfl⟩ := path_done_iff.mp hlast
  rw [failureNotes, failureOf, if_pos hfault, if_pos hfault]
  exact ⟨rfl, rfl⟩

theorem path_guarded {s : Store} {name : String} {work : Program α} {m : Memory} {h : History}
    {r : Except Failure α}
    (hpath : Path (work.settle fun
      | .error (.fault fault) =>
        if fault.isDatabase then s.reportFault name fault else Program.fail (.fault fault)
      | result => Program.ofExcept result) m h r) :
    (∃ a, Path work m h (.ok a) ∧ r = .ok a) ∨
      ∃ failure hw, Path work m hw (.error failure) ∧ r = .error (s.failureOf name failure) ∧
        h = hw ++ s.failureNotes name failure := by
  obtain ⟨hw, hend, result, rfl, hwork, hlast⟩ := path_settle_iff.mp hpath
  cases result with
  | ok a =>
    obtain ⟨rfl, rfl⟩ := path_done_iff.mp hlast
    rw [List.append_nil]
    exact .inl ⟨a, hwork, rfl⟩
  | error failure =>
    refine .inr ⟨failure, hw, hwork, ?_⟩
    cases failure with
    | fault fault =>
      by_cases hfault : fault.isDatabase = true
      · simp only [if_pos hfault] at hlast
        obtain ⟨rfl, rfl⟩ := path_reportFault hfault hlast
        exact ⟨rfl, rfl⟩
      · simp only [if_neg hfault] at hlast
        obtain ⟨rfl, rfl⟩ := path_done_iff.mp hlast
        rw [failureOf, failureNotes, if_neg hfault, if_neg hfault]
        exact ⟨rfl, rfl⟩
    | _ =>
      obtain ⟨rfl, rfl⟩ := path_done_iff.mp hlast
      exact ⟨rfl, rfl⟩

theorem path_operation {s : Store} {name : String} {attributes : Attributes} {work : Program α}
    {m : Memory} {h : History} {r : Except Failure α}
    (hpath : Path (s.operation name attributes work) m h r) :
    (∃ a hw, Path work m hw (.ok a) ∧ r = .ok a ∧
      h = s.operationStart name attributes :: hw ++
        [.note (.spanLeft none), .note (.measured (Metric.completed name "success"))]) ∨
      ∃ failure hw, Path work m hw (.error failure) ∧ r = .error (s.failureOf name failure) ∧
        h = s.operationStart name attributes :: hw ++ s.failureNotes name failure ++
          [.note (.spanLeft (some (s.failureOf name failure)))] := by
  -- The span is left in both cases, but only success is counted after it.
  rcases path_bind_iff.mp hpath with ⟨failure, hspan, rfl⟩ | ⟨hs, hlast, a, rfl, hspan, hcount⟩
  · rcases path_inSpan hspan with ⟨_, _, _, heq, _⟩ | ⟨failure', hg, hinner, heq, rfl⟩
    · cases heq
    · cases heq
      rcases path_guarded hinner with ⟨a, -, heq⟩ | ⟨cause, hw, hwork, heq, rfl⟩
      · cases heq
      · cases heq
        exact .inr ⟨cause, hw, hwork, rfl, by simp [operationStart]⟩
  · obtain ⟨last, rfl, hlast⟩ := path_tell_iff.mp hcount
    obtain ⟨rfl, rfl⟩ := path_done_iff.mp hlast
    rcases path_inSpan hspan with ⟨a', hg, hinner, heq, rfl⟩ | ⟨_, _, _, heq, _⟩
    · cases heq
      rcases path_guarded hinner with ⟨a', hwork, heq⟩ | ⟨_, _, _, heq, _⟩
      · cases heq
        exact .inl ⟨a, hg, hwork, rfl, by simp [operationStart]⟩
      · cases heq
    · cases heq

theorem exists_path_of_operation_ok {s : Store} {name : String} {attributes : Attributes}
    {work : Program α} {m : Memory} {h : History} {a : α}
    (hpath : Path (s.operation name attributes work) m h (.ok a)) :
    ∃ hw, Path work m hw (.ok a) ∧ hw ⊆ h := by
  rcases path_operation hpath with ⟨_, hw, hwork, heq, rfl⟩ | ⟨_, _, _, heq, -⟩
  · cases heq
    refine ⟨hw, hwork, fun event hevent => ?_⟩
    simp [hevent]
  · cases heq

theorem exchanges_failureNotes (s : Store) (operation : String) (failure : Failure) :
    exchanges (s.failureNotes operation failure) = [] := by
  cases failure with
  | fault fault =>
    rw [failureNotes]
    split <;> rfl
  | _ => rfl

theorem amounts_failureNotes (s : Store) (operation : String) (failure : Failure)
    (total : Metric.RowTotal) : total.amounts (s.failureNotes operation failure) = [] := by
  cases failure with
  | fault fault =>
    rw [failureNotes]
    split <;> simp
  | _ => exact total.amounts_nil

/-- An operation contacts the server as its work does, counts the rows that its work counts, and succeeds if its work does. -/
theorem exists_path_of_operation {s : Store} {name : String} {attributes : Attributes}
    {work : Program α} {m : Memory} {h : History} {r : Except Failure α}
    (hpath : Path (s.operation name attributes work) m h r) :
    ∃ hw result, Path work m hw result ∧ r = result.mapError (s.failureOf name) ∧
      exchanges h = exchanges hw ∧
      ∀ total : Metric.RowTotal, total.amounts h = total.amounts hw := by
  rcases path_operation hpath with ⟨a, hw, hwork, rfl, rfl⟩ | ⟨failure, hw, hwork, rfl, rfl⟩
  · exact ⟨hw, .ok a, hwork, rfl, by simp [operationStart], by simp [operationStart]⟩
  · refine ⟨hw, .error failure, hwork, rfl, ?_, ?_⟩
    · simp [operationStart, exchanges_failureNotes]
    · simp [operationStart, amounts_failureNotes]

end Store

end VectorTable
