import VectorTable.Proofs.Program.Block
import VectorTable.Trace.Span

/-!
# Leaving events out of a history

Part of what a program does may make no difference to the rest. An erasure names the events of that part, and what must be true of a history for them to make no difference. A program comes down to another one if every such history, without those events, is a history of the other with the same result. For a program that is put together from parts this is known as soon as it is known of the parts. The other program can be compared with itself: which path it takes depends on nothing but the replies.
-/

namespace VectorTable

open Program

variable {α β : Type}

/-- The events that are left out of histories, and those that may occur in them. What is left out changes nothing of what a program can know. -/
structure Erasure where
  drops : Event → Bool
  admits : Event → Prop
  after_of_drops : ∀ (m : Memory) (event : Event), drops event = true → m.after event = m

namespace Erasure

variable (e : Erasure)

def erase (h : History) : History := h.filter fun event => !e.drops event

def Admits (h : History) : Prop := ∀ event ∈ h, e.admits event

/-- A program whose histories, if they are admitted, are those of another program with more events. -/
def ComesDownTo (p q : Program α) : Prop :=
  ∀ m h r, Path p m h r → e.Admits h → Path q m (e.erase h) r

variable {e}

theorem admits_append {h₁ h₂ : History} : e.Admits (h₁ ++ h₂) ↔ e.Admits h₁ ∧ e.Admits h₂ :=
  List.forall_mem_append

theorem admits_cons {event : Event} {h : History} :
    e.Admits (event :: h) ↔ e.admits event ∧ e.Admits h :=
  List.forall_mem_cons

theorem erase_append (h₁ h₂ : History) : e.erase (h₁ ++ h₂) = e.erase h₁ ++ e.erase h₂ :=
  List.filter_append _ _

theorem erase_cons_of_kept {event : Event} (hkept : e.drops event = false) (h : History) :
    e.erase (event :: h) = event :: e.erase h := by
  rw [erase, List.filter_cons_of_pos (by rw [hkept]; rfl)]
  rfl

theorem erase_cons_of_dropped {event : Event} (hdropped : e.drops event = true) (h : History) :
    e.erase (event :: h) = e.erase h := by
  rw [erase, List.filter_cons_of_neg (by rw [hdropped]; decide)]
  rfl

theorem afterAll_erase (m : Memory) (h : History) : m.afterAll (e.erase h) = m.afterAll h := by
  induction h generalizing m with
  | nil => rfl
  | cons event h ih =>
    cases hevent : e.drops event with
    | false =>
      rw [erase_cons_of_kept hevent]
      exact ih _
    | true =>
      rw [erase_cons_of_dropped hevent, ih]
      show m.afterAll h = (m.after event).afterAll h
      rw [e.after_of_drops m event hevent]

/-! ### Programs put together from parts -/

theorem comesDownTo_done (r : Except Failure α) : e.ComesDownTo (done r) (done r) := by
  intro m h result hpath _
  obtain ⟨rfl, rfl⟩ := path_done_iff.mp hpath
  exact .done result m

theorem ComesDownTo.ask {c : Contact} {next next' : Reply → Program α}
    (hkept : ∀ reply, e.drops (.contact c reply) = false)
    (hnext : ∀ reply, e.ComesDownTo (next reply) (next' reply)) :
    e.ComesDownTo (.ask c next) (.ask c next') := by
  intro m h r hpath hadmits
  obtain ⟨reply, rest, rfl, hrest⟩ := path_ask_iff.mp hpath
  rw [erase_cons_of_kept (hkept reply)]
  exact .ask reply (hnext reply _ _ _ hrest (admits_cons.mp hadmits).2)

theorem ComesDownTo.tell {n : Note} {next next' : Program α} (hkept : e.drops (.note n) = false)
    (hnext : e.ComesDownTo next next') : e.ComesDownTo (.tell n next) (.tell n next') := by
  intro m h r hpath hadmits
  obtain ⟨rest, rfl, hrest⟩ := path_tell_iff.mp hpath
  rw [erase_cons_of_kept hkept]
  exact .tell (hnext _ _ _ hrest (admits_cons.mp hadmits).2)

theorem ComesDownTo.look {next next' : Memory → Program α}
    (hnext : ∀ memory, e.ComesDownTo (next memory) (next' memory)) :
    e.ComesDownTo (.look next) (.look next') := by
  intro m h r hpath hadmits
  exact .look (hnext m _ _ _ (path_look_iff.mp hpath) hadmits)

theorem ComesDownTo.settle {p q : Program α} {k k' : Except Failure α → Program β}
    (hp : e.ComesDownTo p q) (hk : ∀ result, e.ComesDownTo (k result) (k' result)) :
    e.ComesDownTo (p.settle k) (q.settle k') := by
  intro m h r hpath hadmits
  obtain ⟨h₁, h₂, result, rfl, hfirst, hrest⟩ := path_settle_iff.mp hpath
  obtain ⟨hadmits₁, hadmits₂⟩ := admits_append.mp hadmits
  rw [erase_append]
  refine path_settle_iff.mpr ⟨_, _, result, rfl, hp _ _ _ hfirst hadmits₁, ?_⟩
  rw [afterAll_erase]
  exact hk result _ _ _ hrest hadmits₂

theorem ComesDownTo.bind {p q : Program α} {f g : α → Program β} (hp : e.ComesDownTo p q)
    (hf : ∀ a, e.ComesDownTo (f a) (g a)) : e.ComesDownTo (p >>= f) (q >>= g) := by
  apply hp.settle
  intro result
  cases result with
  | ok a => exact hf a
  | error failure => exact comesDownTo_done _

/-- A value that is computed is the same for both programs. -/
theorem comesDownTo_ofExcept_bind {x : Except Failure α} {f g : α → Program β}
    (hf : ∀ a, x = .ok a → e.ComesDownTo (f a) (g a)) :
    e.ComesDownTo (ofExcept x >>= f) (ofExcept x >>= g) := by
  cases x with
  | ok a => exact hf a rfl
  | error failure => exact comesDownTo_done _

theorem comesDownTo_note {n : Note} (hkept : e.drops (.note n) = false) :
    e.ComesDownTo (note n) (note n) := (comesDownTo_done _).tell hkept

theorem comesDownTo_contact {c : Contact} (hkept : ∀ reply, e.drops (.contact c reply) = false) :
    e.ComesDownTo (contact c) (contact c) := by
  apply ComesDownTo.ask hkept
  intro reply
  cases reply <;> exact comesDownTo_done _

/-! ### Blocks -/

variable {p q : Program α}

theorem ComesDownTo.closedBy (hp : e.ComesDownTo p q) {c : Contact}
    (hkept : ∀ reply, e.drops (.contact c reply) = false) :
    e.ComesDownTo (p.closedBy c) (q.closedBy c) := by
  apply hp.settle
  intro result
  apply ComesDownTo.ask hkept
  intro reply
  cases reply <;> exact comesDownTo_done _

theorem ComesDownTo.withConnection (hp : e.ComesDownTo p q)
    (hacquire : ∀ reply, e.drops (.contact .acquire reply) = false)
    (hrelease : ∀ reply, e.drops (.contact .release reply) = false) :
    e.ComesDownTo (withConnection p) (withConnection q) := by
  apply ComesDownTo.look
  intro memory
  split
  · exact (comesDownTo_contact hacquire).bind fun _ => hp.closedBy hrelease
  · exact comesDownTo_done _

theorem ComesDownTo.inScope (hp : e.ComesDownTo p q) {scope : Scope}
    (henter : ∀ reply, e.drops (.contact (.enter scope) reply) = false)
    (hcomplete : ∀ reply, e.drops (.contact (.complete scope) reply) = false)
    (hundo : ∀ reply, e.drops (.contact (.undo scope) reply) = false) :
    e.ComesDownTo (inScope scope p) (inScope scope q) := by
  refine (comesDownTo_contact henter).bind fun _ => hp.settle fun result => ?_
  cases result with
  | ok a => exact (comesDownTo_contact hcomplete).bind fun _ => comesDownTo_done _
  | error failure => exact (comesDownTo_done _).closedBy hundo

theorem ComesDownTo.inSpan (hp : e.ComesDownTo p q) {name : String} {attributes : Attributes}
    (hentered : e.drops (.note (.spanEntered name attributes)) = false)
    (hleft : ∀ failure, e.drops (.note (.spanLeft failure)) = false) :
    e.ComesDownTo (inSpan name attributes p) (inSpan name attributes q) := by
  refine (hp.settle fun result => ?_).tell hentered
  cases result with
  | ok a => exact (comesDownTo_done _).tell (hleft none)
  | error failure => exact (comesDownTo_done _).tell (hleft (some failure))

end Erasure

/-! ### The same replies -/

/-- Histories in which no contact is answered in two ways. -/
def SameReplies (h₁ h₂ : History) : Prop :=
  ∀ contact reply₁ reply₂, .contact contact reply₁ ∈ h₁ → .contact contact reply₂ ∈ h₂ →
    reply₁ = reply₂

/-- The replies decide which path a program takes. -/
theorem Program.path_unique {p : Program α} {m : Memory} {h₁ h₂ : History}
    {r₁ r₂ : Except Failure α} (hfirst : Path p m h₁ r₁) (hsecond : Path p m h₂ r₂)
    (hsame : SameReplies h₁ h₂) : h₁ = h₂ ∧ r₁ = r₂ := by
  induction p generalizing m h₁ h₂ with
  | done result =>
    obtain ⟨rfl, rfl⟩ := path_done_iff.mp hfirst
    obtain ⟨rfl, rfl⟩ := path_done_iff.mp hsecond
    exact ⟨rfl, rfl⟩
  | ask contact next ih =>
    obtain ⟨reply, rest₁, rfl, hrest₁⟩ := path_ask_iff.mp hfirst
    obtain ⟨other, rest₂, rfl, hrest₂⟩ := path_ask_iff.mp hsecond
    obtain rfl : reply = other := hsame contact _ _ List.mem_cons_self List.mem_cons_self
    obtain ⟨rfl, rfl⟩ := ih reply hrest₁ hrest₂ fun contact reply₁ reply₂ hmem₁ hmem₂ =>
      hsame contact _ _ (List.mem_cons_of_mem _ hmem₁) (List.mem_cons_of_mem _ hmem₂)
    exact ⟨rfl, rfl⟩
  | tell note next ih =>
    obtain ⟨rest₁, rfl, hrest₁⟩ := path_tell_iff.mp hfirst
    obtain ⟨rest₂, rfl, hrest₂⟩ := path_tell_iff.mp hsecond
    obtain ⟨rfl, rfl⟩ := ih hrest₁ hrest₂ fun contact reply₁ reply₂ hmem₁ hmem₂ =>
      hsame contact _ _ (List.mem_cons_of_mem _ hmem₁) (List.mem_cons_of_mem _ hmem₂)
    exact ⟨rfl, rfl⟩
  | look next ih => exact ih m (path_look_iff.mp hfirst) (path_look_iff.mp hsecond) hsame

end VectorTable
