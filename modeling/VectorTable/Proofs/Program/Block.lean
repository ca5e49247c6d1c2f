import VectorTable.Program.Block
import VectorTable.Proofs.Program.Path

/-!
# The paths of blocks

What can happen in a block, whatever the work in it does: each block is either not entered, and then nothing of the work happens, or the work happens between one contact that opens the block and one that closes it, and the reply to the latter decides whether the result of the work stands.
-/

namespace VectorTable.Program

variable {α : Type}

def closing (scope : Scope) : Except Failure α → Contact
  | .ok _ => .complete scope
  | .error _ => .undo scope

/-- A result after a contact that must not fail. -/
def afterReply (result : Except Failure α) : Reply → Except Failure α
  | .ok _ => result
  | .error fault => .error (.fault fault)

theorem path_closedBy_iff {work : Program α} {contact : Contact} {m : Memory} {h : History}
    {r : Except Failure α} :
    Path (work.closedBy contact) m h r ↔
      ∃ hw result reply, Path work m hw result ∧ h = hw ++ [.contact contact reply] ∧
        r = afterReply result reply := by
  refine path_settle_iff.trans ⟨?_, ?_⟩
  · rintro ⟨hw, _, result, rfl, hwork, hclose⟩
    obtain ⟨reply, rest, rfl, hrest⟩ := path_ask_iff.mp hclose
    cases reply <;> obtain ⟨rfl, rfl⟩ := path_done_iff.mp hrest <;>
      exact ⟨hw, _, _, hwork, rfl, rfl⟩
  · rintro ⟨hw, result, reply, hwork, rfl, rfl⟩
    refine ⟨hw, [.contact contact reply], result, rfl, hwork, path_ask_iff.mpr ⟨reply, [], rfl, ?_⟩⟩
    cases reply <;> exact .done _ _

theorem path_withConnection {work : Program α} {m : Memory} {h : History} {r : Except Failure α}
    (hpath : Path (withConnection work) m h r) :
    (m.connected = false ∧ h = [] ∧ r = .error .notConnected) ∨
      (∃ fault, h = [.contact .acquire (.error fault)] ∧ r = .error (.fault fault)) ∨
      ∃ value hw result reply, Path work m hw result ∧
        h = .contact .acquire (.ok value) :: hw ++ [.contact .release reply] ∧
        r = afterReply result reply := by
  rw [withConnection, path_look_iff] at hpath
  cases hconnected : m.connected with
  | false =>
    rw [hconnected, if_neg Bool.false_ne_true] at hpath
    obtain ⟨rfl, rfl⟩ := path_done_iff.mp hpath
    exact .inl ⟨rfl, rfl, rfl⟩
  | true =>
    rw [hconnected, if_pos rfl] at hpath
    refine .inr ((path_contact_bind_iff.mp hpath).imp_right ?_)
    rintro ⟨value, rest, rfl, hrest⟩
    obtain ⟨hw, result, reply, hwork, rfl, rfl⟩ := path_closedBy_iff.mp hrest
    exact ⟨value, hw, result, reply, hwork, rfl, rfl⟩

theorem path_inScope {scope : Scope} {work : Program α} {m : Memory} {h : History}
    {r : Except Failure α} (hpath : Path (inScope scope work) m h r) :
    (∃ fault, h = [.contact (.enter scope) (.error fault)] ∧ r = .error (.fault fault)) ∨
      ∃ value hw result reply, Path work m hw result ∧
        h = .contact (.enter scope) (.ok value) :: hw ++ [.contact (closing scope result) reply] ∧
        r = afterReply result reply := by
  refine (path_contact_bind_iff.mp hpath).imp_right ?_
  rintro ⟨value, rest, rfl, hrest⟩
  obtain ⟨hw, hclose, result, rfl, hwork, hend⟩ := path_settle_iff.mp hrest
  cases result with
  | ok a =>
    rcases path_contact_bind_iff.mp hend with ⟨fault, rfl, rfl⟩ | ⟨answer, last, rfl, hlast⟩
    · exact ⟨value, hw, .ok a, .error fault, hwork, rfl, rfl⟩
    · obtain ⟨rfl, rfl⟩ := path_done_iff.mp hlast
      exact ⟨value, hw, .ok a, .ok answer, hwork, rfl, rfl⟩
  | error failure =>
    obtain ⟨_, _, reply, hfail, rfl, rfl⟩ := path_closedBy_iff.mp hend
    obtain ⟨rfl, rfl⟩ := path_done_iff.mp hfail
    exact ⟨value, hw, .error failure, reply, hwork, rfl, rfl⟩

/-- The paths of work in a transaction on a connection of its own: no connection, no transaction, or a transaction that is closed after the work and a connection that is given back after that. -/
theorem path_inTransaction {work : Program α} {m : Memory} {h : History} {r : Except Failure α}
    (hpath : Path (inTransaction work) m h r) :
    (m.connected = false ∧ h = [] ∧ r = .error .notConnected) ∨
      (∃ fault, h = [.contact .acquire (.error fault)] ∧ r = .error (.fault fault)) ∨
      (∃ value fault reply,
        h = [.contact .acquire (.ok value), .contact (.enter .transaction) (.error fault),
          .contact .release reply] ∧
        r = afterReply (.error (.fault fault)) reply) ∨
      ∃ acquired entered hw result closed released, Path work m hw result ∧
        h = .contact .acquire (.ok acquired) :: .contact (.enter .transaction) (.ok entered) ::
          hw ++ [.contact (closing .transaction result) closed, .contact .release released] ∧
        r = afterReply (afterReply result closed) released := by
  rcases path_withConnection hpath with hnone | hrefused | ⟨acquired, hs, _, released, hscope, rfl, rfl⟩
  · exact .inl hnone
  · exact .inr (.inl hrefused)
  · rcases path_inScope hscope with ⟨fault, rfl, rfl⟩ |
      ⟨entered, hw, result, closed, hwork, rfl, rfl⟩
    · exact .inr (.inr (.inl ⟨acquired, fault, released, rfl, rfl⟩))
    · refine .inr (.inr (.inr ⟨acquired, entered, hw, result, closed, released, hwork, ?_, rfl⟩))
      simp

theorem exists_path_of_withConnection_ok {work : Program α} {m : Memory} {h : History} {a : α}
    (hpath : Path (withConnection work) m h (.ok a)) :
    ∃ hw, Path work m hw (.ok a) ∧ hw ⊆ h := by
  rcases path_withConnection hpath with ⟨-, -, heq⟩ | ⟨_, -, heq⟩ |
    ⟨_, hw, result, released, hwork, rfl, heq⟩
  · cases heq
  · cases heq
  · cases released <;> cases heq
    refine ⟨hw, hwork, fun event hevent => ?_⟩
    simp [hevent]

theorem exists_path_of_inTransaction_ok {work : Program α} {m : Memory} {h : History} {a : α}
    (hpath : Path (inTransaction work) m h (.ok a)) :
    ∃ hw, Path work m hw (.ok a) ∧ hw ⊆ h := by
  rcases path_inTransaction hpath with ⟨-, -, heq⟩ | ⟨_, -, heq⟩ | ⟨_, _, reply, -, heq⟩ |
    ⟨_, _, hw, result, closed, released, hwork, rfl, heq⟩
  · cases heq
  · cases heq
  · cases reply <;> cases heq
  · cases released <;> cases closed <;> cases heq
    refine ⟨hw, hwork, fun event hevent => ?_⟩
    simp [hevent]

end VectorTable.Program
