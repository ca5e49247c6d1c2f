import VectorTable.Program.Event

/-!
# Programs that contact a server

A program is a finite tree: it is done, it asks the server and goes on with the reply, it takes a note and goes on, or it looks at what is known and goes on. Nothing is assumed about the server: a program says what it does for every reply. Running a program against a server follows one path through the tree and gives the result with the history of the run.
-/

namespace VectorTable

/-- A program with a result of type `α`, or a failure. -/
inductive Program (α : Type) : Type
  | done (result : Except Failure α)
  | ask (contact : Contact) (next : Reply → Program α)
  | tell (note : Note) (next : Program α)
  | look (next : Memory → Program α)

abbrev Server (σ : Type) := σ → Contact → Reply × σ

/-- The end of a run: its result, its history, and the state the server is left in. -/
structure Outcome (σ α : Type) where
  result : Except Failure α
  history : History
  state : σ

def Outcome.prepend {σ α : Type} (event : Event) (o : Outcome σ α) : Outcome σ α :=
  { o with history := event :: o.history }

namespace Program

variable {α β σ : Type}

def fail (failure : Failure) : Program α := done (.error failure)

def ofExcept (result : Except Failure α) : Program α := done result

/-- A program followed by whatever its result calls for, success or failure. -/
def settle : Program α → (Except Failure α → Program β) → Program β
  | done result, k => k result
  | ask contact next, k => ask contact fun reply => (next reply).settle k
  | tell note next, k => tell note (next.settle k)
  | look next, k => look fun memory => (next memory).settle k

/-- A program followed by another if it succeeds. -/
def bind (p : Program α) (f : α → Program β) : Program β :=
  p.settle fun
    | .ok a => f a
    | .error failure => fail failure

instance : Monad Program where
  pure a := done (.ok a)
  bind := bind

def note (n : Note) : Program Unit := tell n (pure ())

def log (entry : Log.Entry) : Program Unit := note (.log entry)

/-- Contacting the server; a fault is a failure. -/
def contact (c : Contact) : Program Value :=
  ask c fun
    | .ok value => pure value
    | .error fault => fail (.fault fault)

def run (server : Server σ) : Program α → σ → Memory → Outcome σ α
  | done result, state, _ => ⟨result, [], state⟩
  | ask contact next, state, memory =>
    let answer := server state contact
    let event := Event.contact contact answer.1
    (run server (next answer.1) answer.2 (memory.after event)).prepend event
  | tell note next, state, memory =>
    let event := Event.note note
    (run server next state (memory.after event)).prepend event
  | look next, state, memory => run server (next memory) state memory

end Program

end VectorTable
