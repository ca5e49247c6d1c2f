import VectorTable.Proofs.Program.Ledger
import VectorTable.TableSetup

/-!
# Opening, working, closing

A database is opened and closed, and in between programs work on its connections. Such a program neither opens nor closes a pool, and it prints nothing, whatever the server replies; so what is known about the pool is the same before and after it. Here is also what happens while a pool is opened or closed.
-/

namespace VectorTable

def Contact.isInner : Contact → Bool
  | createPool _ | closePool => false
  | acquire | release | enter _ | complete _ | undo _ | statement _ => true

def Note.isInner : Note → Bool
  | poolOpened | poolDropped | printed _ => false
  | log _ | measured _ | collectorMade | spanEntered .. | spanLeft _ | idIssued => true

/-- Whether an event leaves the pool alone and prints nothing. -/
def Event.isInner : Event → Bool
  | .contact c _ => c.isInner
  | .note n => n.isInner

theorem Memory.connected_after {event : Event} (hinner : event.isInner = true) (m : Memory) :
    (m.after event).connected = m.connected := by
  cases event with
  | contact => rfl
  | note note =>
    cases note with
    | poolOpened | poolDropped => cases hinner
    | _ => rfl

theorem Memory.connected_afterAll {h : History} (hinner : ∀ event ∈ h, event.isInner = true)
    (m : Memory) : (m.afterAll h).connected = m.connected := by
  induction h generalizing m with
  | nil => rfl
  | cons event h ih =>
    have hrest := ih (fun other hother => hinner other (List.mem_cons_of_mem event hother))
      (m.after event)
    exact hrest.trans (connected_after (hinner event List.mem_cons_self) m)

namespace Program

variable {α β : Type}

/-- Programs that leave the pool alone and print nothing. -/
inductive IsInner {α : Type} : Program α → Prop
  | done (result : Except Failure α) : IsInner (done result)
  | ask {contact : Contact} {next : Reply → Program α} (hcontact : contact.isInner = true)
    (h : ∀ reply, IsInner (next reply)) : IsInner (ask contact next)
  | tell {note : Note} {next : Program α} (hnote : note.isInner = true) (h : IsInner next) :
    IsInner (tell note next)
  | look {next : Memory → Program α} (h : ∀ m, IsInner (next m)) : IsInner (look next)

theorem IsInner.isInner_of_mem {p : Program α} (hp : IsInner p) {m : Memory} {h : History}
    {r : Except Failure α} (hpath : Path p m h r) : ∀ event ∈ h, event.isInner = true := by
  induction hpath with
  | done => exact List.forall_mem_nil _
  | ask reply _ ih =>
    cases hp with
    | ask hcontact hnext => exact List.forall_mem_cons.mpr ⟨hcontact, ih (hnext reply)⟩
  | tell _ ih =>
    cases hp with
    | tell hnote hnext => exact List.forall_mem_cons.mpr ⟨hnote, ih hnext⟩
  | look _ ih =>
    cases hp with
    | look hnext => exact ih (hnext _)

theorem IsInner.settle {p : Program α} {k : Except Failure α → Program β} (hp : IsInner p)
    (hk : ∀ result, IsInner (k result)) : IsInner (p.settle k) := by
  induction hp with
  | done result => exact hk result
  | ask hcontact _ ih => exact .ask hcontact ih
  | tell hnote _ ih => exact .tell hnote ih
  | look _ ih => exact .look ih

theorem IsInner.bind {p : Program α} {f : α → Program β} (hp : IsInner p)
    (hf : ∀ a, IsInner (f a)) : IsInner (p >>= f) := by
  apply hp.settle
  rintro (failure | a)
  · exact .done _
  · exact hf a

theorem isInner_contact {c : Contact} (hc : c.isInner = true) : IsInner (contact c) := by
  apply IsInner.ask hc
  rintro (fault | value) <;> exact .done _

theorem isInner_note {n : Note} (hn : n.isInner = true) : IsInner (note n) := .tell hn (.done _)

theorem isInner_log (entry : Log.Entry) : IsInner (log entry) := isInner_note rfl

/-! ### Blocks -/

theorem IsInner.closedBy {work : Program α} (hwork : IsInner work) {c : Contact}
    (hc : c.isInner = true) : IsInner (work.closedBy c) := by
  refine hwork.settle fun result => .ask hc ?_
  rintro (fault | value) <;> exact .done _

theorem IsInner.inScope {work : Program α} (hwork : IsInner work) (scope : Scope) :
    IsInner (inScope scope work) := by
  refine (isInner_contact rfl).bind fun _ => hwork.settle ?_
  rintro (failure | a)
  · exact (IsInner.done (.error failure)).closedBy rfl
  · exact (isInner_contact rfl).bind fun _ => .done _

theorem IsInner.withConnection {work : Program α} (hwork : IsInner work) :
    IsInner (withConnection work) := by
  refine .look fun m => ?_
  split
  · exact (isInner_contact rfl).bind fun _ => hwork.closedBy rfl
  · exact .done _

theorem IsInner.inTransaction {work : Program α} (hwork : IsInner work) :
    IsInner (inTransaction work) := (hwork.inScope .transaction).withConnection

theorem IsInner.accountFor {table operation : String} {work : Program α} (hwork : IsInner work) :
    IsInner (accountFor table operation work) := by
  refine hwork.settle fun result => ?_
  split
  · split <;> exact .done _
  · exact .done _

end Program

open Program

namespace Database

theorem isInner_run (kind : StatementKind) (sql : String) (args : List Value) :
    IsInner (run kind sql args) := (isInner_contact rfl).withConnection

theorem isInner_healthCheck : IsInner healthCheck := by
  refine (isInner_run _ _ _).settle fun result => ?_
  split
  · exact .done _
  · split
    · exact (isInner_log _).bind fun _ => .done _
    · exact .done _

/-! ### Opening and closing -/

theorem path_connect {options : PoolOptions} {m : Memory} {h : History} {r : Except Failure Unit}
    (hpath : Path (connect options) m h r) :
    (∃ fault rest, h = .contact (.createPool options) (.error fault) :: rest ∧
        (∀ event ∈ rest, event.isInner = true) ∧ exchanges rest = [] ∧
        r = .error (.fault fault)) ∨
      ∃ value entry, h = [.contact (.createPool options) (.ok value), .note .poolOpened,
        .note (.log entry)] ∧ r = .ok () := by
  obtain ⟨reply, rest, rfl, hrest⟩ := path_ask_iff.mp hpath
  cases reply with
  | error fault =>
    refine .inl ⟨fault, rest, rfl, ?_⟩
    dsimp only at hrest
    split at hrest
    · obtain ⟨rfl, rfl⟩ := path_done_iff.mp hrest
      exact ⟨List.forall_mem_nil _, rfl, rfl⟩
    · obtain ⟨last, rfl, hlast⟩ := path_tell_iff.mp hrest
      obtain ⟨rfl, rfl⟩ := path_done_iff.mp hlast
      exact ⟨by simp [Event.isInner, Note.isInner], rfl, rfl⟩
  | ok value =>
    obtain ⟨middle, rfl, hmiddle⟩ := path_tell_iff.mp hrest
    obtain ⟨last, rfl, hlast⟩ := path_tell_iff.mp hmiddle
    obtain ⟨rfl, rfl⟩ := path_done_iff.mp hlast
    exact .inr ⟨value, _, rfl, rfl⟩

theorem path_close {m : Memory} {h : History} {r : Except Failure Unit} (hpath : Path close m h r) :
    (m.connected = false ∧ h = [] ∧ r = .ok ()) ∨
      (m.connected = true ∧ ∃ fault,
        h = [.note .poolDropped, .contact .closePool (.error fault)] ∧
        r = .error (.fault fault)) ∨
      (m.connected = true ∧ ∃ value entry,
        h = [.note .poolDropped, .contact .closePool (.ok value), .note (.log entry)] ∧
        r = .ok ()) := by
  have hpath := path_look_iff.mp hpath
  cases hconnected : m.connected with
  | false =>
    rw [hconnected, if_neg Bool.false_ne_true] at hpath
    obtain ⟨rfl, rfl⟩ := path_done_iff.mp hpath
    exact .inl ⟨rfl, rfl, rfl⟩
  | true =>
    rw [hconnected, if_pos rfl] at hpath
    obtain ⟨rest, rfl, hrest⟩ := path_tell_iff.mp hpath
    rcases path_contact_bind_iff.mp hrest with ⟨fault, rfl, rfl⟩ | ⟨value, last, rfl, hlast⟩
    · exact .inr (.inl ⟨rfl, fault, rfl, rfl⟩)
    · obtain ⟨final, rfl, hfinal⟩ := path_tell_iff.mp hlast
      obtain ⟨rfl, rfl⟩ := path_done_iff.mp hfinal
      exact .inr (.inr ⟨rfl, value, _, rfl, rfl⟩)

theorem connected_afterAll_close {m : Memory} {h : History} {r : Except Failure Unit}
    (hpath : Path close m h r) : (m.afterAll h).connected = false := by
  rcases path_close hpath with ⟨hm, rfl, -⟩ | ⟨-, fault, rfl, -⟩ | ⟨-, value, entry, rfl, -⟩
  · exact hm
  · rfl
  · rfl

end Database

end VectorTable
