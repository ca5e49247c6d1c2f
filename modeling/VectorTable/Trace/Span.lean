import VectorTable.Program.Basic

/-!
# Spans

A span covers a stretch of work and knows whether a failure escaped from it. Spans nest, and the spans of a history are read off it in the order in which they were left. Cancellation is not a failure of a span.
-/

namespace VectorTable

namespace Trace

/-- A finished span: its name and attributes, the name of the span around it, and the failure that escaped from it. -/
structure Span where
  name : String
  attributes : Attributes
  parent : Option String
  failure : Option Failure

def recorded (failure : Option Failure) : Option Failure :=
  failure.filter fun f => !f.isCancellation

/-- A span that has not been left yet. -/
structure Open where
  name : String
  attributes : Attributes

/-- The spans finished in a history that begins inside the given open spans, innermost first. -/
def finishedFrom : List Open → History → List Span
  | _, [] => []
  | stack, .note (.spanEntered name attributes) :: rest =>
    finishedFrom (⟨name, attributes⟩ :: stack) rest
  | top :: stack, .note (.spanLeft failure) :: rest =>
    ⟨top.name, top.attributes, stack.head?.map Open.name, recorded failure⟩
      :: finishedFrom stack rest
  | stack, _ :: rest => finishedFrom stack rest

def finished (history : History) : List Span := finishedFrom [] history

/-- The status of a span: nothing is said, or that it failed, with a description. -/
inductive Status
  | unset
  | error (description : String)
deriving DecidableEq, Repr

/-- What is marked on a span: the failures listed as its events, in order, and its status. -/
structure Marks where
  events : List Failure
  status : Status

namespace Marks

def fresh : Marks := ⟨[], .unset⟩

/-- Listing a failure and saying that the span failed. What was said before is replaced. -/
def mark (marks : Marks) (failure : Failure) (description : String) : Marks :=
  ⟨marks.events ++ [failure], .error description⟩

/-- The mark that the work of a span leaves when a failure leaves the work: its message. -/
def leaveWork (marks : Marks) (failure : Failure) : Marks := marks.mark failure failure.message

/-- The mark that the span itself leaves when the failure goes on to leave the span: its class and its message. -/
def leaveSpan (marks : Marks) (failure : Failure) : Marks :=
  marks.mark failure (failure.name ++ ": " ++ failure.message)

end Marks

/-- The marks on a finished span. A failure leaves the work first and then the span. -/
def Span.marks (s : Span) : Marks :=
  match s.failure with
  | some failure => (Marks.fresh.leaveWork failure).leaveSpan failure
  | none => .fresh

/-- What a failed span says. -/
def Span.description (s : Span) : Option String :=
  match s.marks.status with
  | .error description => some description
  | .unset => none

/-- The failures listed as events of a span. -/
def Span.events (s : Span) : List Failure := s.marks.events

end Trace

namespace Program

variable {α : Type}

def inSpan (name : String) (attributes : Attributes) (work : Program α) : Program α :=
  tell (.spanEntered name attributes) (work.settle fun
    | .ok a => tell (.spanLeft none) (pure a)
    | .error failure => tell (.spanLeft (some failure)) (fail failure))

end Program

namespace Trace

/-- The name and the attributes of the span of an operation on a table. -/
def operationSpan (operation table : String) (attributes : Attributes) : String × Attributes :=
  ("vectorstore." ++ operation,
    [("db.system", .text "postgresql"), ("db.table", .text table),
      ("vectorstore.operation", .text operation)] ++ attributes)

end Trace

end VectorTable
