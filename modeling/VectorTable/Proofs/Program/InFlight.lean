import VectorTable.Proofs.Program.Bracket

/-!
# The fault in flight

A fault that strikes while the server is being contacted is in flight until somebody deals with it. Blocks are left on the way, and giving back what they hold may fail as well: the new fault takes the place of the old one, which is lost. Where a savepoint is entered or left, what the server itself answers is passed over. So the fault in flight at the end can be read off the exchanges alone, and work on a connection fails with that fault and with no other.
-/

namespace VectorTable

variable {α β : Type}

def Contact.isSavepoint : Contact → Bool
  | enter .savepoint | complete .savepoint | undo .savepoint => true
  | _ => false

/-- The fault that has been raised last. -/
def lastRaised (before : Option Fault) : Reply → Option Fault
  | .ok _ => before
  | .error fault => some fault

/-- The fault in flight after an exchange, if one is in flight before. -/
def inFlightAfter (before : Option Fault) (exchange : Contact × Reply) : Option Fault :=
  if exchange.1.isSavepoint then
    (lastRaised before exchange.2).filter fun fault => !fault.isAnswer
  else lastRaised before exchange.2

theorem inFlightAfter_of_savepoint {contact : Contact} (hcontact : contact.isSavepoint = true)
    (before : Option Fault) (reply : Reply) : inFlightAfter before (contact, reply) =
      (lastRaised before reply).filter fun fault => !fault.isAnswer := if_pos hcontact

theorem inFlightAfter_of_not_savepoint {contact : Contact} (hcontact : contact.isSavepoint = false)
    (before : Option Fault) (reply : Reply) :
    inFlightAfter before (contact, reply) = lastRaised before reply :=
  if_neg (by rw [hcontact]; exact Bool.false_ne_true)

/-- The fault in flight at the end of some exchanges. -/
def inFlight (done : List (Contact × Reply)) : Option Fault := done.foldl inFlightAfter none

@[simp] theorem inFlight_nil : inFlight [] = none := rfl

theorem inFlight_append (first rest : List (Contact × Reply)) :
    inFlight (first ++ rest) = rest.foldl inFlightAfter (inFlight first) := List.foldl_append

/-- What is in flight after a block that has been entered is decided by how it is left. -/
theorem inFlight_block (opening closing : Contact) (opened : Value)
    (work : List (Contact × Reply)) (closed : Reply) :
    inFlight ((opening, .ok opened) :: work ++ [(closing, closed)]) =
      inFlightAfter (inFlight work) (closing, closed) := by
  have hopening : inFlightAfter none (opening, .ok opened) = none := by
    rw [inFlightAfter]
    split <;> rfl
  have hwork : inFlight ((opening, .ok opened) :: work) = inFlight work := by
    rw [inFlight, List.foldl_cons, hopening]
    rfl
  rw [inFlight_append, hwork]
  rfl

/-! ### What is in flight has been raised, and what has been raised last is in flight -/

theorem eq_or_eq_of_lastRaised {before : Option Fault} {reply : Reply} {fault : Fault}
    (h : lastRaised before reply = some fault) : reply = .error fault ∨ before = some fault := by
  cases reply with
  | ok value => exact .inr h
  | error raised =>
    cases h
    exact .inl rfl

theorem eq_or_eq_of_inFlightAfter {before : Option Fault} {exchange : Contact × Reply}
    {fault : Fault} (h : inFlightAfter before exchange = some fault) :
    exchange.2 = .error fault ∨ before = some fault := by
  rw [inFlightAfter] at h
  split at h
  · exact eq_or_eq_of_lastRaised (Option.eq_some_of_filter_eq_some h)
  · exact eq_or_eq_of_lastRaised h

theorem mem_of_foldl_inFlightAfter {done : List (Contact × Reply)} {before : Option Fault}
    {fault : Fault} (h : done.foldl inFlightAfter before = some fault) :
    (∃ contact, (contact, .error fault) ∈ done) ∨ before = some fault := by
  induction done generalizing before with
  | nil => exact .inr h
  | cons exchange done ih =>
    rcases ih h with ⟨contact, hcontact⟩ | hbefore
    · exact .inl ⟨contact, List.mem_cons_of_mem _ hcontact⟩
    · refine (eq_or_eq_of_inFlightAfter hbefore).imp_left fun hreply => ⟨exchange.1, ?_⟩
      rw [← hreply]
      exact List.mem_cons_self

/-- A fault in flight is one that the server gave as a reply. -/
theorem exists_mem_of_inFlight {done : List (Contact × Reply)} {fault : Fault}
    (h : inFlight done = some fault) : ∃ contact, (contact, .error fault) ∈ done :=
  (mem_of_foldl_inFlightAfter h).resolve_right nofun

theorem inFlightAfter_eq_some {before : Option Fault} {contact : Contact} {reply : Reply}
    {fault : Fault} (hraised : lastRaised before reply = some fault)
    (hcontact : fault.isAnswer = true → contact.isSavepoint = false) :
    inFlightAfter before (contact, reply) = some fault := by
  rw [inFlightAfter, hraised]
  cases hanswer : fault.isAnswer with
  | false => simp [hanswer]
  | true => simp [hcontact hanswer]

/-- Exchanges that let a fault pass: nothing is raised in them, and no savepoint is left if it is the server that answered. -/
def LetsPass (fault : Fault) (rest : List (Contact × Reply)) : Prop :=
  ∀ exchange ∈ rest, (∃ value, exchange.2 = .ok value) ∧
    (fault.isAnswer = true → exchange.1.isSavepoint = false)

theorem foldl_inFlightAfter_of_letsPass {fault : Fault} {rest : List (Contact × Reply)}
    (hrest : LetsPass fault rest) : rest.foldl inFlightAfter (some fault) = some fault := by
  induction rest with
  | nil => rfl
  | cons exchange rest ih =>
    obtain ⟨⟨⟨value, hreply⟩, hpassed⟩, hrest⟩ := List.forall_mem_cons.mp hrest
    have hraised : lastRaised (some fault) exchange.2 = some fault := by rw [hreply]; rfl
    have hstep : inFlightAfter (some fault) exchange = some fault :=
      inFlightAfter_eq_some hraised hpassed
    rw [List.foldl_cons, hstep]
    exact ih hrest

/-- The fault raised last is in flight at the end, unless it is passed over at a savepoint. -/
theorem inFlight_eq_some {first rest : List (Contact × Reply)} {contact : Contact} {fault : Fault}
    (hcontact : fault.isAnswer = true → contact.isSavepoint = false) (hrest : LetsPass fault rest) :
    inFlight (first ++ (contact, .error fault) :: rest) = some fault := by
  have hraised : inFlightAfter (inFlight first) (contact, .error fault) = some fault :=
    inFlightAfter_eq_some rfl hcontact
  rw [inFlight_append, List.foldl_cons, hraised]
  exact foldl_inFlightAfter_of_letsPass hrest

/-! ### Work on a connection -/

theorem passedOver_map (before : Option Fault) :
    passedOver (before.map .fault) = (before.filter fun fault => !fault.isAnswer).map .fault := by
  cases before with
  | none => rfl
  | some fault => cases hanswer : fault.isAnswer <;> simp [passedOver, Option.filter, hanswer]

theorem afterClosing_map (before : Option Fault) (closed : Reply) :
    afterClosing (before.map .fault) closed = (lastRaised before closed).map .fault := by
  cases closed <;> rfl

/-- Exchanges in brackets end with the fault that is in flight after them. -/
theorem Bracketed.ending_eq {done : List (Contact × Reply)} {ending : Option Failure}
    (h : Bracketed done ending) : ending = (inFlight done).map .fault := by
  induction h with
  | nothing => rfl
  | statement s reply => cases reply <;> rfl
  | unopened fault => exact passedOver_map (some fault)
  | @savepoint work ending _ entered closed ih =>
    have hclosing : (Scope.savepoint.closing ending).isSavepoint = true := by cases ending <;> rfl
    rw [inFlight_block, inFlightAfter_of_savepoint hclosing, ← passedOver_map, ← afterClosing_map,
      ← ih]
  | sequence _ _ ihfirst ihrest =>
    have hnone := Option.map_eq_none_iff.mp ihfirst.symm
    rw [inFlight_append, hnone]
    exact ihrest

namespace Program

/-- Programs that fail with the fault in flight at their end, and for nothing else. -/
def FailsInFlight (p : Program α) : Prop :=
  ∀ m h r, Path p m h r → failure? r = (inFlight (exchanges h)).map .fault

theorem IsBracketed.failsInFlight {p : Program α} (hp : IsBracketed p) : FailsInFlight p :=
  fun _ _ _ hpath => (hp _ _ _ hpath).ending_eq

theorem FailsInFlight.inTransactionScope {work : Program α} (hwork : FailsInFlight work) :
    FailsInFlight (inScope .transaction work) := by
  intro m h r hpath
  rcases path_inScope hpath with ⟨fault, rfl, rfl⟩ | ⟨entered, hw, result, closed, hinner, rfl, rfl⟩
  · rfl
  · have hclosing : (closing .transaction result).isSavepoint = false := by cases result <;> rfl
    have hblock := inFlight_block (.enter .transaction) (closing .transaction result) entered
      (exchanges hw) closed
    rw [inFlightAfter_of_not_savepoint hclosing] at hblock
    rw [failure?_afterReply, hwork _ _ _ hinner, afterClosing_map, ← hblock]
    simp

/-- Programs that need a connection. Without one they say so; with one they fail with the fault in flight at their end, in the way it is received, and for nothing else. -/
structure NeedsConnection (received : Fault → Failure) (p : Program α) : Prop where
  unconnected : ∀ m h r, Path p m h r → m.connected = false →
    exchanges h = [] ∧ r = .error .notConnected
  connected : ∀ m h r, Path p m h r → m.connected = true →
    failure? r = (inFlight (exchanges h)).map received

theorem FailsInFlight.withConnection {work : Program α} (hwork : FailsInFlight work) :
    NeedsConnection .fault (withConnection work) where
  unconnected m h r hpath hconnected := by
    have hinner := path_look_iff.mp hpath
    rw [hconnected, if_neg Bool.false_ne_true] at hinner
    obtain ⟨rfl, rfl⟩ := path_done_iff.mp hinner
    exact ⟨rfl, rfl⟩
  connected m h r hpath hconnected := by
    rcases path_withConnection hpath with ⟨hunconnected, -, -⟩ | ⟨fault, rfl, rfl⟩ |
      ⟨acquired, hw, result, released, hinner, rfl, rfl⟩
    · rw [hconnected] at hunconnected
      cases hunconnected
    · rfl
    · have hblock := inFlight_block .acquire .release acquired (exchanges hw) released
      rw [inFlightAfter_of_not_savepoint rfl] at hblock
      rw [failure?_afterReply, hwork _ _ _ hinner, afterClosing_map, ← hblock]
      simp

theorem FailsInFlight.inTransaction {work : Program α} (hwork : FailsInFlight work) :
    NeedsConnection .fault (inTransaction work) := hwork.inTransactionScope.withConnection

end Program

end VectorTable
