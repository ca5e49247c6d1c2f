import VectorTable.Proofs.Program.Ledger

/-!
# Brackets in a history

What a program does on a connection can be read as brackets: an acquisition and a release around everything, and inside them transactions and savepoints, each begun once and then completed or undone once. `Conduct` says what the exchanges of an operation may look like, and `Bracketed` what may happen inside a transaction; both say with which failure a stretch ends, because that decides whether the block around it is completed or undone. Programs built from blocks conduct themselves this way whatever the server replies.
-/

namespace VectorTable

variable {α β : Type}

/-! ### Endings -/

/-- The failure that a result is, if it is one. -/
def Program.failure? : Except Failure α → Option Failure
  | .ok _ => none
  | .error failure => some failure

theorem Program.failure?_eq_some_iff {r : Except Failure α} {failure : Failure} :
    failure? r = some failure ↔ r = .error failure := by
  cases r <;> simp [failure?]

theorem Program.failure?_eq_none_iff {r : Except Failure α} :
    failure? r = none ↔ ∃ a, r = .ok a := by
  cases r <;> simp [failure?]

/-- The failure with which a contact ends that is answered by a fault. -/
def replyFailure? : Reply → Option Failure
  | .ok _ => none
  | .error fault => some (.fault fault)

/-- The contact that closes a scope after work with some ending: it is completed after work that ended normally, and undone after work that failed. -/
def Scope.closing (scope : Scope) : Option Failure → Contact
  | none => .complete scope
  | some _ => .undo scope

/-- The ending of a block whose work had some ending. A fault while closing takes its place. -/
def afterClosing (ending : Option Failure) (closed : Reply) : Option Failure :=
  (replyFailure? closed).or ending

/-- What is left of the failure of a savepoint: what the server itself answers is passed over. -/
def passedOver : Option Failure → Option Failure
  | some (.fault fault) => if fault.isAnswer then none else some (.fault fault)
  | ending => ending

/-! ### Exchanges in brackets -/

/-- Exchanges inside a transaction, with the failure that they end with: statements and savepoints one after the other, up to the first failure that is not passed over. A savepoint that is entered is closed exactly once, as its work has ended. -/
inductive Bracketed : List (Contact × Reply) → Option Failure → Prop
  | nothing : Bracketed [] none
  | statement (s : Statement) (reply : Reply) :
    Bracketed [(.statement s, reply)] (replyFailure? reply)
  | unopened (fault : Fault) :
    Bracketed [(.enter .savepoint, .error fault)] (passedOver (some (.fault fault)))
  | savepoint {work : List (Contact × Reply)} {ending : Option Failure}
    (h : Bracketed work ending) (entered : Value) (closed : Reply) :
    Bracketed ((.enter .savepoint, .ok entered) ::
        work ++ [(Scope.savepoint.closing ending, closed)])
      (passedOver (afterClosing ending closed))
  | sequence {first rest : List (Contact × Reply)} {ending : Option Failure}
    (hfirst : Bracketed first none) (hrest : Bracketed rest ending) :
    Bracketed (first ++ rest) ending

/-- The exchanges of an operation, which is transactional or not. It may end before it contacts the server or before it has a connection; otherwise the connection is released after everything else. In between there is one transaction around everything, or statements outside of any transaction. -/
inductive Conduct : (transactional : Bool) → List (Contact × Reply) → Prop
  | silent (transactional : Bool) : Conduct transactional []
  | unconnected (transactional : Bool) (fault : Fault) :
    Conduct transactional [(.acquire, .error fault)]
  | direct {work : List (Contact × Reply)} (h : OnlyStatements work) (acquired : Value)
    (released : Reply) :
    Conduct false ((.acquire, .ok acquired) :: work ++ [(.release, released)])
  | unopened (acquired : Value) (fault : Fault) (released : Reply) :
    Conduct true [(.acquire, .ok acquired), (.enter .transaction, .error fault),
      (.release, released)]
  | transaction {work : List (Contact × Reply)} {ending : Option Failure}
    (h : Bracketed work ending) (acquired entered : Value) (closed released : Reply) :
    Conduct true ((.acquire, .ok acquired) :: (.enter .transaction, .ok entered) ::
      work ++ [(Scope.transaction.closing ending, closed), (.release, released)])

theorem OnlyStatements.append {first rest : List (Contact × Reply)} (hfirst : OnlyStatements first)
    (hrest : OnlyStatements rest) : OnlyStatements (first ++ rest) := by
  intro exchange hexchange
  exact (List.mem_append.mp hexchange).elim (hfirst exchange) (hrest exchange)

namespace Program

theorem closing_eq (scope : Scope) (r : Except Failure α) :
    closing scope r = scope.closing (failure? r) := by
  cases r <;> rfl

theorem failure?_afterReply (r : Except Failure α) (reply : Reply) :
    failure? (afterReply r reply) = afterClosing (failure? r) reply := by
  cases reply <;> rfl

/-! ### Programs that do not contact the server -/

/-- Programs that contact the server in no case. -/
def IsSilent (p : Program α) : Prop := ∀ m h r, Path p m h r → exchanges h = []

theorem isSilent_ofExcept (result : Except Failure α) : IsSilent (ofExcept result) := by
  intro m h r hpath
  obtain ⟨rfl, -⟩ := path_done_iff.mp hpath
  rfl

theorem isSilent_pure (a : α) : IsSilent (pure a : Program α) := isSilent_ofExcept (.ok a)

theorem isSilent_look {next : Memory → Program α} (h : ∀ memory, IsSilent (next memory)) :
    IsSilent (look next) := fun m _ _ hpath => h m _ _ _ (path_look_iff.mp hpath)

theorem isSilent_tell {note : Note} {next : Program α} (h : IsSilent next) :
    IsSilent (tell note next) := by
  intro m hs r hpath
  obtain ⟨rest, rfl, hrest⟩ := path_tell_iff.mp hpath
  rw [exchanges_note]
  exact h _ _ _ hrest

theorem isSilent_note (n : Note) : IsSilent (note n) := isSilent_tell (isSilent_pure ())

theorem IsSilent.bind {p : Program α} {f : α → Program β} (hp : IsSilent p)
    (hf : ∀ a, IsSilent (f a)) : IsSilent (p >>= f) := by
  intro m h r hpath
  rcases path_bind_iff.mp hpath with ⟨failure, hfirst, -⟩ | ⟨h₁, h₂, a, rfl, hfirst, hrest⟩
  · exact hp _ _ _ hfirst
  · rw [exchanges_append, hp _ _ _ hfirst, hf a _ _ _ hrest]
    rfl

/-! ### Work inside a transaction -/

/-- Programs whose exchanges are in brackets and end as their result does. -/
def IsBracketed (p : Program α) : Prop :=
  ∀ m h r, Path p m h r → Bracketed (exchanges h) (failure? r)

theorem isBracketed_pure (a : α) : IsBracketed (pure a : Program α) := by
  intro m h r hpath
  obtain ⟨rfl, rfl⟩ := path_done_iff.mp hpath
  exact .nothing

theorem isBracketed_statement (kind : StatementKind) (sql : String) (rows : List (List Value))
    (timeout : Option (Option Float)) :
    IsBracketed (contact (.statement ⟨kind, sql, rows, timeout⟩)) := by
  intro m h r hpath
  obtain ⟨reply, rest, rfl, hrest⟩ := path_ask_iff.mp hpath
  have hresult : rest = [] ∧ failure? r = replyFailure? reply := by
    cases reply <;> obtain ⟨rfl, rfl⟩ := path_done_iff.mp hrest <;> exact ⟨rfl, rfl⟩
  rw [hresult.2, hresult.1]
  exact .statement _ reply

theorem IsBracketed.bind {p : Program α} {f : α → Program β} (hp : IsBracketed p)
    (hf : ∀ a, IsBracketed (f a)) : IsBracketed (p >>= f) := by
  intro m h r hpath
  rcases path_bind_iff.mp hpath with ⟨failure, hfirst, rfl⟩ | ⟨h₁, h₂, a, rfl, hfirst, hrest⟩
  · exact hp _ _ _ hfirst
  · rw [exchanges_append]
    exact .sequence (hp _ _ _ hfirst) (hf a _ _ _ hrest)

/-- The paths of a savepoint, before anybody passes over its failure. -/
theorem IsBracketed.path_savepoint {work : Program α} (hwork : IsBracketed work) {m : Memory}
    {h : History} {r : Except Failure α} (hpath : Path (inScope .savepoint work) m h r) :
    Bracketed (exchanges h) (passedOver (failure? r)) := by
  rcases path_inScope hpath with ⟨fault, rfl, rfl⟩ | ⟨entered, hw, result, closed, hw', rfl, rfl⟩
  · exact .unopened fault
  · have hinner := hwork _ _ _ hw'
    rw [failure?_afterReply, closing_eq]
    simpa using hinner.savepoint entered closed

/-! ### Whole operations -/

/-- Programs that conduct themselves, whatever the server replies. -/
def Conducts (transactional : Bool) (p : Program α) : Prop :=
  ∀ m h r, Path p m h r → Conduct transactional (exchanges h)

variable {transactional : Bool}

theorem IsSilent.conducts {p : Program α} (hp : IsSilent p) : Conducts transactional p := by
  intro m h r hpath
  rw [hp _ _ _ hpath]
  exact .silent transactional

theorem conducts_of_exchanges_eq {p : Program α} {q : Program β} (hq : Conducts transactional q)
    (hp : ∀ m h r, Path p m h r → ∃ hw result, Path q m hw result ∧ exchanges h = exchanges hw) :
    Conducts transactional p := by
  intro m h r hpath
  obtain ⟨hw, result, hwork, hsame⟩ := hp _ _ _ hpath
  rw [hsame]
  exact hq _ _ _ hwork

/-- What comes before the connection is acquired may look and note. -/
theorem IsSilent.bind_conducts {p : Program α} {f : α → Program β} (hp : IsSilent p)
    (hf : ∀ a, Conducts transactional (f a)) : Conducts transactional (p >>= f) := by
  intro m h r hpath
  rcases path_bind_iff.mp hpath with ⟨failure, hfirst, -⟩ | ⟨h₁, h₂, a, rfl, hfirst, hrest⟩
  · exact hp.conducts _ _ _ hfirst
  · rw [exchanges_append, hp _ _ _ hfirst]
    exact hf a _ _ _ hrest

/-- What comes after the connection is released may look and note. -/
theorem Conducts.bind_isSilent {p : Program α} {f : α → Program β} (hp : Conducts transactional p)
    (hf : ∀ a, IsSilent (f a)) : Conducts transactional (p >>= f) := by
  intro m h r hpath
  rcases path_bind_iff.mp hpath with ⟨failure, hfirst, -⟩ | ⟨h₁, h₂, a, rfl, hfirst, hrest⟩
  · exact hp _ _ _ hfirst
  · rw [exchanges_append, hf a _ _ _ hrest, List.append_nil]
    exact hp _ _ _ hfirst

theorem IsBracketed.conducts_inTransaction {work : Program α} (hwork : IsBracketed work) :
    Conducts true (inTransaction work) := by
  intro m h r hpath
  rcases path_inTransaction hpath with ⟨-, rfl, -⟩ | ⟨fault, rfl, -⟩ |
    ⟨acquired, fault, released, rfl, -⟩ |
    ⟨acquired, entered, hw, result, closed, released, hresult, rfl, -⟩
  · exact .silent true
  · exact .unconnected true fault
  · exact .unopened acquired fault released
  · have hwhole := Conduct.transaction (hwork _ _ _ hresult) acquired entered closed released
    rw [closing_eq]
    simpa using hwhole

theorem conducts_withConnection {work : Program α}
    (hwork : ∀ m h r, Path work m h r → OnlyStatements (exchanges h)) :
    Conducts false (withConnection work) := by
  intro m h r hpath
  rcases path_withConnection hpath with ⟨-, rfl, -⟩ | ⟨fault, rfl, -⟩ |
    ⟨acquired, hw, result, released, hresult, rfl, -⟩
  · exact .silent false
  · exact .unconnected false fault
  · simpa using Conduct.direct (hwork _ _ _ hresult) acquired released

end Program

end VectorTable
