import VectorTable.Proofs.Program.Block

/-!
# What a history commits

The database keeps the statements of a transaction only once the transaction is completed. The ledger of a history says which statements have been committed and which are in scopes that are still open. A scope that is completed hands its statements on to the scope around it, or commits them if there is none; one that is undone or that fails to complete loses them, as do all open scopes of a connection that is given back. Statements without a scope are committed at once, and statements that fail leave nothing.
-/

namespace VectorTable

/-- The contacts of a history with their replies, in order. -/
def exchanges (h : History) : List (Contact × Reply) :=
  h.filterMap fun
    | .contact contact reply => some (contact, reply)
    | .note _ => none

@[simp] theorem exchanges_nil : exchanges [] = [] := rfl

@[simp] theorem exchanges_contact (contact : Contact) (reply : Reply) (h : History) :
    exchanges (.contact contact reply :: h) = (contact, reply) :: exchanges h := rfl

@[simp] theorem exchanges_note (note : Note) (h : History) :
    exchanges (.note note :: h) = exchanges h := rfl

@[simp] theorem exchanges_append (h₁ h₂ : History) :
    exchanges (h₁ ++ h₂) = exchanges h₁ ++ exchanges h₂ := List.filterMap_append

theorem mem_exchanges_iff {h : History} {contact : Contact} {reply : Reply} :
    (contact, reply) ∈ exchanges h ↔ .contact contact reply ∈ h := by
  rw [exchanges, List.mem_filterMap]
  constructor
  · rintro ⟨event, hevent, heq⟩
    cases event with
    | contact =>
      cases heq
      exact hevent
    | note => cases heq
  · intro hevent
    exact ⟨_, hevent, rfl⟩

/-- The statements that have been committed, and those of the open scopes, the innermost first. -/
structure Ledger where
  committed : List Statement
  pending : List (List Statement)

namespace Ledger

def empty : Ledger := ⟨[], []⟩

/-- Statements join the innermost open scope, or are committed if there is none. -/
def add (l : Ledger) (statements : List Statement) : Ledger :=
  match l.pending with
  | [] => { l with committed := l.committed ++ statements }
  | inner :: outer => { l with pending := (inner ++ statements) :: outer }

/-- The innermost scope is over, and its statements with it. -/
def drop (l : Ledger) : Ledger := { l with pending := l.pending.tail }

/-- The innermost scope is over, and its statements are handed on. -/
def merge (l : Ledger) : Ledger := l.drop.add (l.pending.headD [])

def after (l : Ledger) : Contact × Reply → Ledger
  | (.statement s, .ok _) => l.add [s]
  | (.enter _, .ok _) => { l with pending := [] :: l.pending }
  | (.complete _, .ok _) => l.merge
  | (.complete _, .error _) | (.undo _, _) => l.drop
  | (.release, _) => { l with pending := [] }
  | _ => l

end Ledger

/-- The statements that a history commits, in order. -/
def committed (h : History) : List Statement :=
  ((exchanges h).foldl Ledger.after .empty).committed

/-- The rows of the statements that a history commits, in order. -/
def committedRows (h : History) : List (List Value) := (committed h).flatMap Statement.rows

theorem committed_congr {h₁ h₂ : History} (h : exchanges h₁ = exchanges h₂) :
    committed h₁ = committed h₂ := by
  rw [committed, committed, h]

/-- The statements that have been answered without a fault. -/
def answered (done : List (Contact × Reply)) : List Statement :=
  done.filterMap fun
    | (.statement s, .ok _) => some s
    | _ => none

def OnlyStatements (done : List (Contact × Reply)) : Prop :=
  ∀ exchange ∈ done, ∃ s, exchange.1 = .statement s

theorem onlyStatements_nil : OnlyStatements [] := by
  intro exchange hexchange
  cases hexchange

theorem OnlyStatements.cons {done : List (Contact × Reply)} (h : OnlyStatements done)
    (s : Statement) (reply : Reply) : OnlyStatements ((.statement s, reply) :: done) := by
  intro exchange hexchange
  rcases List.mem_cons.mp hexchange with rfl | hrest
  · exact ⟨s, rfl⟩
  · exact h exchange hrest

theorem Ledger.foldl_after_of_onlyStatements {done : List (Contact × Reply)}
    (h : OnlyStatements done) (kept inner : List Statement) (outer : List (List Statement)) :
    done.foldl after ⟨kept, inner :: outer⟩ = ⟨kept, (inner ++ answered done) :: outer⟩ := by
  induction done generalizing inner with
  | nil => rw [List.foldl_nil, answered, List.filterMap_nil, List.append_nil]
  | cons exchange done ih =>
    obtain ⟨contact, reply⟩ := exchange
    obtain ⟨s, rfl⟩ := h _ List.mem_cons_self
    have hrest := ih fun other hother => h other (List.mem_cons_of_mem _ hother)
    cases reply with
    | ok value =>
      have hmore : inner ++ answered ((.statement s, .ok value) :: done) =
          inner ++ [s] ++ answered done := by
        simp [answered]
      rw [hmore]
      exact hrest (inner ++ [s])
    | error fault => exact hrest inner

theorem foldl_after_transaction {done : List (Contact × Reply)} (hdone : OnlyStatements done)
    (acquired entered : Value) (closing : Contact) (closed released : Reply) :
    ((.acquire, .ok acquired) :: (.enter .transaction, .ok entered) ::
        done ++ [(closing, closed), (.release, released)]).foldl Ledger.after .empty =
      ((Ledger.mk [] [answered done]).after (closing, closed)).after (.release, released) := by
  have hstart : (Ledger.empty.after (.acquire, .ok acquired)).after
      (.enter .transaction, .ok entered) = ⟨[], [[]]⟩ := rfl
  rw [List.cons_append, List.cons_append, List.foldl_cons, List.foldl_cons, hstart,
    List.foldl_append, Ledger.foldl_after_of_onlyStatements hdone]
  rfl

/-- A connection whose transaction has been completed is given back without a fault. -/
def ReleasesCompleted (h : History) : Prop :=
  ∀ value fault, (.complete .transaction, .ok value) ∈ exchanges h →
    (.release, .error fault) ∉ exchanges h

/-- Work in a transaction that succeeds commits exactly its statements. If it fails, nothing is committed, unless the transaction was completed and it is only the connection that cannot be given back. -/
theorem Program.ends_inTransaction {α : Type} {work : Program α} {m : Memory} {h : History}
    {r : Except Failure α} (hpath : Path (inTransaction work) m h r)
    (hwork : ∀ hw result, Path work m hw result → OnlyStatements (exchanges hw)) :
    (∃ failure, r = .error failure ∧
        ((∃ value fault, (.complete .transaction, .ok value) ∈ exchanges h ∧
            (.release, .error fault) ∈ exchanges h) ∨ committed h = [])) ∨
      ∃ a hw acquired entered completed released, r = .ok a ∧ Path work m hw (.ok a) ∧
        exchanges h = (.acquire, .ok acquired) :: (.enter .transaction, .ok entered) ::
          exchanges hw ++ [(.complete .transaction, .ok completed), (.release, .ok released)] ∧
        committed h = answered (exchanges hw) := by
  rcases path_inTransaction hpath with ⟨-, rfl, rfl⟩ | ⟨fault, rfl, rfl⟩ |
    ⟨value, fault, reply, rfl, rfl⟩ |
    ⟨acquired, entered, hw, result, closed, released, hresult, hh, rfl⟩
  · exact .inl ⟨_, rfl, .inr rfl⟩
  · exact .inl ⟨_, rfl, .inr rfl⟩
  · cases reply <;> exact .inl ⟨_, rfl, .inr rfl⟩
  · have hexchanges : exchanges h = (.acquire, .ok acquired) :: (.enter .transaction, .ok entered) ::
        exchanges hw ++ [(closing .transaction result, closed), (.release, released)] := by
      rw [hh]
      simp
    have hcommitted : committed h = (((Ledger.mk [] [answered (exchanges hw)]).after
        (closing .transaction result, closed)).after (.release, released)).committed := by
      rw [committed, hexchanges, foldl_after_transaction (hwork hw result hresult)]
    cases result with
    | error failure => cases closed <;> cases released <;> exact .inl ⟨_, rfl, .inr hcommitted⟩
    | ok a =>
      cases closed with
      | error fault => cases released <;> exact .inl ⟨_, rfl, .inr hcommitted⟩
      | ok completed =>
        cases released with
        | error fault =>
          refine .inl ⟨_, rfl, .inl ⟨completed, fault, ?_, ?_⟩⟩ <;> simp [hexchanges, closing]
        | ok released =>
          exact .inr ⟨a, hw, acquired, entered, completed, released, rfl, hresult, hexchanges,
            hcommitted⟩

theorem Program.committed_inTransaction {α : Type} {work : Program α} {m : Memory} {h : History}
    {r : Except Failure α} (hpath : Path (inTransaction work) m h r)
    (hwork : ∀ hw result, Path work m hw result → OnlyStatements (exchanges hw))
    (hrelease : ReleasesCompleted h) :
    (∃ failure, r = .error failure ∧ committed h = []) ∨
      ∃ a hw acquired entered completed released, r = .ok a ∧ Path work m hw (.ok a) ∧
        exchanges h = (.acquire, .ok acquired) :: (.enter .transaction, .ok entered) ::
          exchanges hw ++ [(.complete .transaction, .ok completed), (.release, .ok released)] ∧
        committed h = answered (exchanges hw) := by
  refine (ends_inTransaction hpath hwork).imp_left ?_
  rintro ⟨failure, hr, hend⟩
  refine ⟨failure, hr, hend.resolve_left ?_⟩
  rintro ⟨value, fault, hcompleted, hreleased⟩
  exact hrelease value fault hcompleted hreleased

end VectorTable
