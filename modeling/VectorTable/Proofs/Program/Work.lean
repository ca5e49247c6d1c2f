import VectorTable.Proofs.Metric.Measurements
import VectorTable.Proofs.Program.Bracket

/-!
# Work on a connection

What an operation does while it holds a connection: it sends statements that were built before, measures nothing, and fails only because of the server or for want of a connection. The statements that are sent are known in advance up to those that a failure leaves out, and each way of putting work together adds them up.
-/

namespace VectorTable

/-- The statements that a history sends, answered or not. -/
def asked (h : History) : List Statement :=
  (exchanges h).filterMap fun
    | (.statement s, _) => some s
    | _ => none

@[simp] theorem asked_nil : asked [] = [] := rfl

@[simp] theorem asked_append (h₁ h₂ : History) : asked (h₁ ++ h₂) = asked h₁ ++ asked h₂ := by
  rw [asked, exchanges_append, List.filterMap_append]
  rfl

@[simp] theorem asked_note (note : Note) (h : History) : asked (.note note :: h) = asked h := rfl

@[simp] theorem asked_statement (s : Statement) (reply : Reply) (h : History) :
    asked (.contact (.statement s) reply :: h) = s :: asked h := rfl

@[simp] theorem asked_acquire (reply : Reply) (h : History) :
    asked (.contact .acquire reply :: h) = asked h := rfl

@[simp] theorem asked_release (reply : Reply) (h : History) :
    asked (.contact .release reply :: h) = asked h := rfl

@[simp] theorem asked_enter (scope : Scope) (reply : Reply) (h : History) :
    asked (.contact (.enter scope) reply :: h) = asked h := rfl

@[simp] theorem asked_closing {α : Type} (scope : Scope) (result : Except Failure α)
    (reply : Reply) (h : History) :
    asked (.contact (Program.closing scope result) reply :: h) = asked h := by
  cases result <;> rfl

theorem asked_of_exchanges_eq_nil {h : History} (hexchanges : exchanges h = []) : asked h = [] := by
  rw [asked, hexchanges]
  rfl

/-- Failures that come from the server as they are, or from the want of a connection to it. -/
def Failure.isServed : Failure → Bool
  | fault _ | notConnected => true
  | _ => false

namespace Program

variable {α β : Type} {p : Program α} {m : Memory} {h : History} {r : Except Failure α}
  {sent : List Statement}

/-- Work that sends statements in order, unless it fails before, measures nothing, and fails only with failures that are served. -/
def Works (sent : List Statement) (p : Program α) : Prop :=
  ∀ m h r, Path p m h r →
    (asked h).Sublist sent ∧ Metric.measurements h = [] ∧
      ∀ failure, r = .error failure → failure.isServed = true

theorem works_pure (a : α) : Works [] (pure a : Program α) := by
  intro m h r hpath
  obtain ⟨rfl, rfl⟩ := path_done_iff.mp hpath
  exact ⟨.slnil, rfl, nofun⟩

theorem works_fail {failure : Failure} (hserved : failure.isServed = true) :
    Works [] (fail failure : Program α) := by
  intro m h r hpath
  obtain ⟨rfl, rfl⟩ := path_done_iff.mp hpath
  refine ⟨.slnil, rfl, ?_⟩
  rintro _ ⟨⟩
  exact hserved

theorem works_log (entry : Log.Entry) : Works [] (log entry) := by
  intro m h r hpath
  obtain ⟨rest, rfl, hrest⟩ := path_tell_iff.mp hpath
  obtain ⟨rfl, rfl⟩ := path_done_iff.mp hrest
  exact ⟨.slnil, rfl, nofun⟩

theorem works_contact_statement (s : Statement) : Works [s] (contact (.statement s)) := by
  intro m h r hpath
  obtain ⟨reply, rest, rfl, hrest⟩ := path_ask_iff.mp hpath
  cases reply with
  | ok value =>
    obtain ⟨rfl, rfl⟩ := path_done_iff.mp hrest
    exact ⟨.refl _, rfl, nofun⟩
  | error fault =>
    obtain ⟨rfl, rfl⟩ := path_done_iff.mp hrest
    refine ⟨.refl _, rfl, ?_⟩
    rintro _ ⟨⟩
    rfl

/-- Work that goes on whether it succeeds or fails. What follows need only handle failures that are served. -/
theorem Works.settle {first rest : List Statement} {k : Except Failure α → Program β}
    (hp : Works first p)
    (hk : ∀ result, (∀ failure, result = .error failure → failure.isServed = true) →
      Works rest (k result)) : Works (first ++ rest) (p.settle k) := by
  intro m h r hpath
  obtain ⟨h₁, h₂, result, rfl, hfirst, hrest⟩ := path_settle_iff.mp hpath
  obtain ⟨hsent, hmeasured, hserved⟩ := hp _ _ _ hfirst
  obtain ⟨hsent', hmeasured', hserved'⟩ := hk result hserved _ _ _ hrest
  refine ⟨?_, by simp [hmeasured, hmeasured'], hserved'⟩
  rw [asked_append]
  exact hsent.append hsent'

theorem Works.mono {more : List Statement} (hp : Works sent p) (hsub : sent.Sublist more) :
    Works more p := by
  intro m h r hpath
  obtain ⟨hsent, hrest⟩ := hp _ _ _ hpath
  exact ⟨hsent.trans hsub, hrest⟩

theorem Works.bind {first rest : List Statement} {f : α → Program β} (hp : Works first p)
    (hf : ∀ a, Works rest (f a)) : Works (first ++ rest) (p >>= f) := by
  apply hp.settle
  intro result hserved
  cases result with
  | ok a => exact hf a
  | error failure => exact (works_fail (hserved _ rfl)).mono (List.nil_sublist rest)

/-- A fault while giving back what a block holds takes the place of the result. -/
theorem isServed_afterReply {result : Except Failure α}
    (hresult : ∀ failure, result = .error failure → failure.isServed = true) (reply : Reply) :
    ∀ failure, afterReply result reply = .error failure → failure.isServed = true := by
  cases reply with
  | ok value => exact hresult
  | error fault =>
    rintro _ ⟨⟩
    rfl

theorem Works.inScope {scope : Scope} (hp : Works sent p) : Works sent (inScope scope p) := by
  intro m h r hpath
  rcases path_inScope hpath with ⟨fault, rfl, rfl⟩ | ⟨entered, hw, result, closed, hwork, rfl, rfl⟩
  · refine ⟨List.nil_sublist sent, rfl, ?_⟩
    rintro _ ⟨⟩
    rfl
  · obtain ⟨hsent, hmeasured, hserved⟩ := hp _ _ _ hwork
    refine ⟨by simpa using hsent, by simp [hmeasured], isServed_afterReply hserved closed⟩

theorem Works.withConnection (hp : Works sent p) : Works sent (withConnection p) := by
  intro m h r hpath
  rcases path_withConnection hpath with ⟨-, rfl, rfl⟩ | ⟨fault, rfl, rfl⟩ |
    ⟨acquired, hw, result, released, hwork, rfl, rfl⟩
  · refine ⟨List.nil_sublist sent, rfl, ?_⟩
    rintro _ ⟨⟩
    rfl
  · refine ⟨List.nil_sublist sent, rfl, ?_⟩
    rintro _ ⟨⟩
    rfl
  · obtain ⟨hsent, hmeasured, hserved⟩ := hp _ _ _ hwork
    refine ⟨by simpa using hsent, by simp [hmeasured], isServed_afterReply hserved released⟩

theorem Works.inTransaction (hp : Works sent p) : Works sent (inTransaction p) :=
  hp.inScope.withConnection

end Program

end VectorTable
