import VectorTable.Metric.Collector
import VectorTable.Proofs.Program.Block
import VectorTable.Trace.Span

/-!
# The spans of a history in parts

Only two kinds of events matter to spans: one that enters a span and one that leaves it. A part of a history without such events finishes no span and leaves the open spans as they are, so what is known of the spans of a program comes from the few places where it enters one.
-/

namespace VectorTable

variable {α β : Type}

/-- Whether a note says that a span is entered or left. -/
def Note.isOfSpan : Note → Bool
  | spanEntered .. | spanLeft _ => true
  | _ => false

def Event.isOfSpan : Event → Bool
  | .contact .. => false
  | .note n => n.isOfSpan

/-- Histories in which no span is entered or left. -/
def IsSpanless (h : History) : Prop := ∀ event ∈ h, event.isOfSpan = false

theorem isSpanless_nil : IsSpanless [] := List.forall_mem_nil _

theorem isSpanless_cons {event : Event} {h : History} :
    IsSpanless (event :: h) ↔ event.isOfSpan = false ∧ IsSpanless h := List.forall_mem_cons

theorem IsSpanless.append {h₁ h₂ : History} (hfirst : IsSpanless h₁) (hrest : IsSpanless h₂) :
    IsSpanless (h₁ ++ h₂) := List.forall_mem_append.mpr ⟨hfirst, hrest⟩

namespace Trace

theorem finishedFrom_cons {event : Event} (hevent : event.isOfSpan = false) (stack : List Open)
    (h : History) : finishedFrom stack (event :: h) = finishedFrom stack h := by
  cases event with
  | contact contact reply => rw [finishedFrom] <;> simp
  | note n =>
    cases n with
    | spanEntered | spanLeft => cases hevent
    | _ => rw [finishedFrom] <;> simp

theorem finishedFrom_append {h : History} (hh : IsSpanless h) (stack : List Open) (rest : History) :
    finishedFrom stack (h ++ rest) = finishedFrom stack rest := by
  induction h with
  | nil => rfl
  | cons event h ih =>
    obtain ⟨hevent, hh⟩ := isSpanless_cons.mp hh
    rw [List.cons_append, finishedFrom_cons hevent, ih hh]

/-- Nothing is finished that has not been entered. -/
theorem finished_of_not_entered {h : History}
    (hh : ∀ name attributes, .note (.spanEntered name attributes) ∉ h) : finished h = [] := by
  rw [finished]
  induction h with
  | nil => rfl
  | cons event h ih =>
    have hrest := ih fun name attributes hmem =>
      hh name attributes (List.mem_cons_of_mem event hmem)
    cases event with
    | contact contact reply =>
      rw [finishedFrom_cons rfl]
      exact hrest
    | note n =>
      cases n with
      | spanEntered name attributes => exact absurd List.mem_cons_self (hh name attributes)
      | spanLeft failure =>
        rw [finishedFrom]
        · exact hrest
        · simp
        · simp
      | _ =>
        rw [finishedFrom_cons rfl]
        exact hrest

/-- A span without spans inside is the only one that is finished. -/
theorem finished_span {before work after : History} (hbefore : IsSpanless before)
    (hwork : IsSpanless work) (hafter : IsSpanless after) (name : String) (attributes : Attributes)
    (failure : Option Failure) :
    finished (before ++ .note (.spanEntered name attributes) ::
        (work ++ .note (.spanLeft failure) :: after)) =
      [⟨name, attributes, none, recorded failure⟩] := by
  rw [finished, finishedFrom_append hbefore, finishedFrom, finishedFrom_append hwork, finishedFrom,
    ← List.append_nil after, finishedFrom_append hafter]
  rfl

theorem marks_of_recorded_none {span : Span} (h : span.failure = none) : span.marks = .fresh := by
  rw [Span.marks, h]

/-- A failure is marked by the work and by the span, and the latter has the last word on the status. -/
theorem marks_of_failure {span : Span} {failure : Failure} (h : span.failure = some failure) :
    span.marks = ⟨[failure, failure], .error (failure.name ++ ": " ++ failure.message)⟩ := by
  rw [Span.marks, h]
  rfl

end Trace

namespace Program

/-! ### Programs without spans -/

/-- Programs that enter and leave no span. -/
inductive Spanless {α : Type} : Program α → Prop
  | done (result : Except Failure α) : Spanless (done result)
  | ask {contact : Contact} {next : Reply → Program α} (h : ∀ reply, Spanless (next reply)) :
    Spanless (ask contact next)
  | tell {note : Note} {next : Program α} (hnote : note.isOfSpan = false) (h : Spanless next) :
    Spanless (tell note next)
  | look {next : Memory → Program α} (h : ∀ m, Spanless (next m)) : Spanless (look next)

theorem Spanless.isSpanless {p : Program α} (hp : Spanless p) {m : Memory} {h : History}
    {r : Except Failure α} (hpath : Path p m h r) : IsSpanless h := by
  induction hpath with
  | done => exact isSpanless_nil
  | ask reply _ ih =>
    cases hp with
    | ask hnext => exact isSpanless_cons.mpr ⟨rfl, ih (hnext reply)⟩
  | tell _ ih =>
    cases hp with
    | tell hnote hnext => exact isSpanless_cons.mpr ⟨hnote, ih hnext⟩
  | look _ ih =>
    cases hp with
    | look hnext => exact ih (hnext _)

theorem Spanless.settle {p : Program α} {k : Except Failure α → Program β} (hp : Spanless p)
    (hk : ∀ result, Spanless (k result)) : Spanless (p.settle k) := by
  induction hp with
  | done result => exact hk result
  | ask _ ih => exact .ask ih
  | tell hnote _ ih => exact .tell hnote ih
  | look _ ih => exact .look ih

theorem Spanless.bind {p : Program α} {f : α → Program β} (hp : Spanless p)
    (hf : ∀ a, Spanless (f a)) : Spanless (p >>= f) := by
  apply hp.settle
  rintro (failure | a)
  · exact .done _
  · exact hf a

theorem spanless_contact (c : Contact) : Spanless (contact c) := by
  apply Spanless.ask
  rintro (fault | value) <;> exact .done _

theorem spanless_log (entry : Log.Entry) : Spanless (log entry) := .tell rfl (.done _)

theorem spanless_measure (m : Metric.Measurement) : Spanless (measure m) := .tell rfl (.done _)

theorem Spanless.closedBy {work : Program α} (hwork : Spanless work) (c : Contact) :
    Spanless (work.closedBy c) := by
  refine hwork.settle fun result => .ask ?_
  rintro (fault | value) <;> exact .done _

theorem Spanless.inScope {work : Program α} (hwork : Spanless work) (scope : Scope) :
    Spanless (inScope scope work) := by
  refine (spanless_contact _).bind fun _ => hwork.settle ?_
  rintro (failure | a)
  · exact (Spanless.done (.error failure)).closedBy _
  · exact (spanless_contact _).bind fun _ => .done _

theorem Spanless.withConnection {work : Program α} (hwork : Spanless work) :
    Spanless (withConnection work) := by
  refine .look fun m => ?_
  split
  · exact (spanless_contact _).bind fun _ => hwork.closedBy _
  · exact .done _

theorem Spanless.inTransaction {work : Program α} (hwork : Spanless work) :
    Spanless (inTransaction work) := (hwork.inScope .transaction).withConnection

end Program

end VectorTable
