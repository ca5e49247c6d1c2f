import Mathlib.Algebra.BigOperators.Group.Finset.Piecewise
import VectorTable.Program.Block
import VectorTable.Proofs.Program.Path

/-!
# Programs that run at the same time

Several programs take turns in any order. A program gives its turn up only where it waits for the server; in its turn it gets the reply that it waits for, and goes on without a break until it waits again or is done. All of them share what is known, and the server knows who asks and may treat everybody differently.

Programs that look around only before they contact the server do not notice the others: what each of them did is one of its paths. What can be counted in a history is the same for all orders in which the parts of the programs are mixed.
-/

namespace VectorTable

open Program

variable {α β σ : Type}

/-! ### Turns -/

namespace Program

/-- What a program does without waiting: it looks and takes notes until it contacts the server or is done. -/
def advance : Program α → Memory → Program α × History
  | tell note next, m =>
    let rest := next.advance (m.after (.note note))
    (rest.1, .note note :: rest.2)
  | look next, m => (next m).advance m
  | waiting, _ => (waiting, [])

/-- One turn of a program, with the state in which the server is left: the reply that it waits for, if it does, and all it does then without waiting. -/
def turn (server : Server σ) (state : σ) (m : Memory) : Program α → (Program α × History) × σ
  | ask contact next =>
    let answer := server state contact
    let rest := (next answer.1).advance m
    ((rest.1, .contact contact answer.1 :: rest.2), answer.2)
  | other => (other.advance m, state)

end Program

/-- Programs that take turns: what is left of each of them, what is known, the state of the server, and what happened so far, with the number of the program that did it. -/
structure Together (σ α : Type) where
  programs : List (Program α)
  memory : Memory
  state : σ
  history : List (Nat × Event)

namespace Together

def start (programs : List (Program α)) (state : σ) (m : Memory) : Together σ α :=
  ⟨programs, m, state, []⟩

/-- The turn of the program with some number. Nothing happens if there is none. -/
def turn (server : Nat → Server σ) (t : Together σ α) (i : Nat) : Together σ α :=
  match t.programs[i]? with
  | none => t
  | some p =>
    let taken := p.turn (server i) t.state t.memory
    ⟨t.programs.set i taken.1.1, t.memory.afterAll taken.1.2, taken.2,
      t.history ++ taken.1.2.map fun event => (i, event)⟩

def run (server : Nat → Server σ) (t : Together σ α) (order : List Nat) : Together σ α :=
  order.foldl (turn server) t

/-- What happened, whoever did it. -/
def events (t : Together σ α) : History := t.history.map Prod.snd

/-- What the program with some number did. -/
def own (t : Together σ α) (i : Nat) : History :=
  t.history.filterMap fun (j, event) => if j = i then some event else none

/-- The result of the program with some number, once it is done. -/
def result? (t : Together σ α) (i : Nat) : Option (Except Failure α) :=
  match t.programs[i]? with
  | some (.done result) => some result
  | _ => none

def IsFinished (t : Together σ α) : Prop :=
  ∀ i < t.programs.length, ∃ result, t.result? i = some result

end Together

/-! ### Looking around -/

namespace Program

/-- Programs that never look around. -/
inductive IsBlind {α : Type} : Program α → Prop
  | done (result : Except Failure α) : IsBlind (done result)
  | ask (contact : Contact) {next : Reply → Program α} (h : ∀ reply, IsBlind (next reply)) :
    IsBlind (ask contact next)
  | tell (note : Note) {next : Program α} (h : IsBlind next) : IsBlind (tell note next)

/-- Programs that look around only before they contact the server. -/
inductive LooksFirst {α : Type} : Program α → Prop
  | done (result : Except Failure α) : LooksFirst (done result)
  | ask (contact : Contact) {next : Reply → Program α} (h : ∀ reply, IsBlind (next reply)) :
    LooksFirst (ask contact next)
  | tell (note : Note) {next : Program α} (h : LooksFirst next) : LooksFirst (tell note next)
  | look {next : Memory → Program α} (h : ∀ m, LooksFirst (next m)) : LooksFirst (look next)

/-- Programs that do not contact the server. -/
inductive IsPrelude {α : Type} : Program α → Prop
  | done (result : Except Failure α) : IsPrelude (done result)
  | tell (note : Note) {next : Program α} (h : IsPrelude next) : IsPrelude (tell note next)
  | look {next : Memory → Program α} (h : ∀ m, IsPrelude (next m)) : IsPrelude (look next)

theorem IsBlind.looksFirst {p : Program α} (hp : IsBlind p) : LooksFirst p := by
  induction hp with
  | done result => exact .done result
  | ask contact h => exact .ask contact h
  | tell note _ ih => exact .tell note ih

theorem IsBlind.settle {p : Program α} {k : Except Failure α → Program β} (hp : IsBlind p)
    (hk : ∀ result, IsBlind (k result)) : IsBlind (p.settle k) := by
  induction hp with
  | done result => exact hk result
  | ask contact _ ih => exact .ask contact ih
  | tell note _ ih => exact .tell note ih

theorem LooksFirst.settle {p : Program α} {k : Except Failure α → Program β} (hp : LooksFirst p)
    (hk : ∀ result, IsBlind (k result)) : LooksFirst (p.settle k) := by
  induction hp with
  | done result => exact (hk result).looksFirst
  | ask contact h => exact .ask contact fun reply => (h reply).settle hk
  | tell note _ ih => exact .tell note ih
  | look _ ih => exact .look ih

theorem IsBlind.bind {p : Program α} {f : α → Program β} (hp : IsBlind p)
    (hf : ∀ a, IsBlind (f a)) : IsBlind (p >>= f) := by
  apply hp.settle
  rintro (failure | a)
  · exact .done _
  · exact hf a

theorem LooksFirst.bind {p : Program α} {f : α → Program β} (hp : LooksFirst p)
    (hf : ∀ a, IsBlind (f a)) : LooksFirst (p >>= f) := by
  apply hp.settle
  rintro (failure | a)
  · exact .done _
  · exact hf a

/-- What looks first may come after anything that does not contact the server. -/
theorem IsPrelude.bind {p : Program α} {f : α → Program β} (hp : IsPrelude p)
    (hf : ∀ a, LooksFirst (f a)) : LooksFirst (p >>= f) := by
  induction hp with
  | done result =>
    cases result with
    | error failure => exact .done _
    | ok a => exact hf a
  | tell note _ ih => exact .tell note ih
  | look _ ih => exact .look ih

theorem IsPrelude.bind_prelude {p : Program α} {f : α → Program β} (hp : IsPrelude p)
    (hf : ∀ a, IsPrelude (f a)) : IsPrelude (p >>= f) := by
  induction hp with
  | done result =>
    cases result with
    | error failure => exact .done _
    | ok a => exact hf a
  | tell note _ ih => exact .tell note ih
  | look _ ih => exact .look ih

theorem isBlind_contact (c : Contact) : IsBlind (contact c) := by
  apply IsBlind.ask
  rintro (fault | value)
  · exact .done _
  · exact .done _

theorem IsBlind.closedBy {work : Program α} (hwork : IsBlind work) (c : Contact) :
    IsBlind (work.closedBy c) := by
  refine hwork.settle fun result => .ask c ?_
  rintro (fault | value)
  · exact .done _
  · exact .done _

theorem IsBlind.inScope {work : Program α} (hwork : IsBlind work) (scope : Scope) :
    IsBlind (inScope scope work) := by
  refine (isBlind_contact _).bind fun _ => hwork.settle ?_
  rintro (failure | a)
  · exact IsBlind.closedBy (.done _) _
  · exact (isBlind_contact _).bind fun _ => .done _

/-- Whether there is a connection to be had is looked up before one is acquired. -/
theorem IsBlind.inTransaction {work : Program α} (hwork : IsBlind work) :
    LooksFirst (inTransaction work) := by
  refine .look fun m => ?_
  split
  · exact ((isBlind_contact _).bind fun _ => (hwork.inScope _).closedBy _).looksFirst
  · exact .done _

/-- What a blind program does is not changed by what it could have known. -/
theorem IsBlind.path {p : Program α} (hp : IsBlind p) {m m' : Memory} {h : History}
    {r : Except Failure α} (hpath : Path p m h r) : Path p m' h r := by
  induction hp generalizing m m' h with
  | done result =>
    obtain ⟨rfl, rfl⟩ := path_done_iff.mp hpath
    exact .done _ _
  | ask contact _ ih =>
    obtain ⟨reply, rest, rfl, hrest⟩ := path_ask_iff.mp hpath
    exact .ask reply (ih reply hrest)
  | tell note _ ih =>
    obtain ⟨rest, rfl, hrest⟩ := path_tell_iff.mp hpath
    exact .tell (ih hrest)

/-- A program that looks first has no more to look for once it waits. -/
theorem LooksFirst.advance {p : Program α} (hp : LooksFirst p) (m : Memory) :
    IsBlind (p.advance m).1 ∧ ∀ m' h r, Path (p.advance m).1 m' h r →
      Path p m ((p.advance m).2 ++ h) r := by
  induction hp generalizing m with
  | done result => exact ⟨.done result, fun _ _ _ hpath => IsBlind.path (.done result) hpath⟩
  | ask contact h =>
    exact ⟨.ask contact h, fun _ _ _ hpath => IsBlind.path (.ask contact h) hpath⟩
  | tell note _ ih =>
    obtain ⟨hblind, hpaths⟩ := ih (m.after (.note note))
    exact ⟨hblind, fun m' h r hpath => .tell (hpaths m' h r hpath)⟩
  | look _ ih =>
    obtain ⟨hblind, hpaths⟩ := ih m m
    exact ⟨hblind, fun m' h r hpath => .look (hpaths m' h r hpath)⟩

theorem LooksFirst.turn {p : Program α} (hp : LooksFirst p) (server : Server σ) (state : σ)
    (m : Memory) :
    IsBlind (p.turn server state m).1.1 ∧ ∀ m' h r, Path (p.turn server state m).1.1 m' h r →
      Path p m ((p.turn server state m).1.2 ++ h) r := by
  cases hp with
  | done result => exact (LooksFirst.done result).advance m
  | ask contact h =>
    obtain ⟨hblind, hpaths⟩ := (h (server state contact).1).looksFirst.advance m
    exact ⟨hblind, fun m' h r hpath => .ask _ (hpaths m' h r hpath)⟩
  | tell note h => exact (LooksFirst.tell note h).advance m
  | look h => exact (LooksFirst.look h).advance m

end Program

/-! ### What each program does -/

namespace Together

/-- A program has not begun, or it is blind by now and on one of its paths. -/
def OnPath (t : Together σ α) (i : Nat) (p : Program α) : Prop :=
  (t.programs[i]? = some p ∧ t.own i = []) ∨
    ∃ rest m, t.programs[i]? = some rest ∧ IsBlind rest ∧
      ∀ m' h r, Path rest m' h r → Path p m (t.own i ++ h) r

theorem filterMap_tagged (h : History) (i j : Nat) :
    (h.map fun event => (i, event)).filterMap
      (fun (k, event) => if k = j then some event else none) = if i = j then h else [] := by
  rw [List.filterMap_map]
  split
  case isTrue hij => simp [hij]
  case isFalse hij => simp [hij]

theorem turn_of_some {t : Together σ α} {i : Nat} {p : Program α} (hp : t.programs[i]? = some p)
    (server : Nat → Server σ) :
    t.turn server i = ⟨t.programs.set i (p.turn (server i) t.state t.memory).1.1,
      t.memory.afterAll (p.turn (server i) t.state t.memory).1.2,
      (p.turn (server i) t.state t.memory).2,
      t.history ++ (p.turn (server i) t.state t.memory).1.2.map fun event => (i, event)⟩ := by
  rw [turn, hp]

theorem turn_of_none {t : Together σ α} {i : Nat} (hp : t.programs[i]? = none)
    (server : Nat → Server σ) : t.turn server i = t := by
  rw [turn, hp]

theorem own_turn_of_ne {t : Together σ α} {i j : Nat} (hij : i ≠ j) (server : Nat → Server σ) :
    (t.turn server i).own j = t.own j := by
  cases hp : t.programs[i]? with
  | none => rw [turn_of_none hp]
  | some p =>
    rw [turn_of_some hp, own, own, List.filterMap_append, filterMap_tagged, if_neg hij,
      List.append_nil]

theorem own_turn_of_some {t : Together σ α} {i : Nat} {p : Program α}
    (hp : t.programs[i]? = some p) (server : Nat → Server σ) :
    (t.turn server i).own i = t.own i ++ (p.turn (server i) t.state t.memory).1.2 := by
  rw [turn_of_some hp, own, own, List.filterMap_append, filterMap_tagged, if_pos rfl]

theorem programs_turn_of_ne {t : Together σ α} {i j : Nat} (hij : i ≠ j)
    (server : Nat → Server σ) : (t.turn server i).programs[j]? = t.programs[j]? := by
  cases hp : t.programs[i]? with
  | none => rw [turn_of_none hp]
  | some p => rw [turn_of_some hp, List.getElem?_set_ne hij]

theorem programs_turn_of_some {t : Together σ α} {i : Nat} {p : Program α}
    (hp : t.programs[i]? = some p) (server : Nat → Server σ) :
    (t.turn server i).programs[i]? = some (p.turn (server i) t.state t.memory).1.1 := by
  have hlength : i < t.programs.length := (List.getElem?_eq_some_iff.mp hp).1
  rw [turn_of_some hp, List.getElem?_set_self hlength]

/-- A turn keeps every program on its path: the one whose turn it is goes a step further, and the others have done nothing. -/
theorem OnPath.turn {t : Together σ α} {j : Nat} {p : Program α} (hp : LooksFirst p)
    (h : t.OnPath j p) (server : Nat → Server σ) (i : Nat) : (t.turn server i).OnPath j p := by
  rcases eq_or_ne i j with rfl | hij
  · refine .inr ?_
    -- In its first turn the program looks at what is known now; later it is blind.
    rcases h with ⟨hfresh, hnothing⟩ | ⟨rest, m, hrest, hblind, hpaths⟩
    · obtain ⟨hblind, hpaths⟩ := hp.turn (server i) t.state t.memory
      refine ⟨_, t.memory, programs_turn_of_some hfresh server, hblind, fun m' h r hpath => ?_⟩
      rw [own_turn_of_some hfresh, hnothing, List.nil_append]
      exact hpaths m' h r hpath
    · obtain ⟨hblind', hpaths'⟩ := hblind.looksFirst.turn (server i) t.state t.memory
      refine ⟨_, m, programs_turn_of_some hrest server, hblind', fun m' h r hpath => ?_⟩
      rw [own_turn_of_some hrest, List.append_assoc]
      exact hpaths _ _ _ (hpaths' m' h r hpath)
  · rw [OnPath, programs_turn_of_ne hij, own_turn_of_ne hij]
    exact h

theorem OnPath.run {t : Together σ α} {j : Nat} {p : Program α} (hp : LooksFirst p)
    (h : t.OnPath j p) (server : Nat → Server σ) (order : List Nat) :
    (t.run server order).OnPath j p := by
  induction order generalizing t with
  | nil => exact h
  | cons i order ih => exact ih (h.turn hp server i)

/-- However the programs take turns, what each of them did when it is done is one of its paths. -/
theorem path_own {programs : List (Program α)} (hprograms : ∀ p ∈ programs, LooksFirst p)
    {server : Nat → Server σ} {state : σ} {m : Memory} {order : List Nat} {i : Nat} {p : Program α}
    (hp : programs[i]? = some p) {r : Except Failure α}
    (hr : ((start programs state m).run server order).result? i = some r) :
    ∃ m', Path p m' (((start programs state m).run server order).own i) r := by
  have hfirst : (start programs state m : Together σ α).OnPath i p := .inl ⟨hp, rfl⟩
  have hpath := hfirst.run (hprograms p (List.mem_of_getElem? hp)) server order
  generalize (start programs state m).run server order = t at hr hpath
  have hdone : t.programs[i]? = some (.done r) := by
    rw [result?] at hr
    split at hr
    case h_1 result heq =>
      cases hr
      exact heq
    case h_2 => cases hr
  rcases hpath with ⟨hfresh, hnothing⟩ | ⟨rest, m', hrest, -, hpaths⟩
  · rw [hdone] at hfresh
    cases hfresh
    rw [hnothing]
    exact ⟨m, .done r m⟩
  · rw [hdone] at hrest
    cases hrest
    refine ⟨m', ?_⟩
    simpa using hpaths m' [] r (.done r m')

/-! ### Replies -/

theorem notMem_advance {p : Program α} {m : Memory} {contact : Contact} {reply : Reply} :
    .contact contact reply ∉ (p.advance m).2 := by
  induction p generalizing m with
  | done result => exact List.not_mem_nil
  | ask asked next => exact List.not_mem_nil
  | tell note next ih =>
    intro h
    rcases List.mem_cons.mp h with heq | hrest
    · cases heq
    · exact ih hrest
  | look next ih => exact ih m

theorem exists_state_of_mem_turn {server : Server σ} {state : σ} {m : Memory} {p : Program α}
    {contact : Contact} {reply : Reply}
    (h : .contact contact reply ∈ (p.turn server state m).1.2) :
    ∃ state, (server state contact).1 = reply := by
  cases p with
  | ask asked next =>
    rcases List.mem_cons.mp h with heq | hrest
    · cases heq
      exact ⟨state, rfl⟩
    · exact absurd hrest notMem_advance
  | done result => exact absurd h notMem_advance
  | tell note next => exact absurd h notMem_advance
  | look next => exact absurd h notMem_advance

/-- What a program is told is what the server tells that program. -/
theorem exists_state_of_mem_own {server : Nat → Server σ} {t : Together σ α} {order : List Nat}
    {i : Nat} {contact : Contact} {reply : Reply}
    (ht : .contact contact reply ∈ t.own i → ∃ state, (server i state contact).1 = reply)
    (h : .contact contact reply ∈ (t.run server order).own i) :
    ∃ state, (server i state contact).1 = reply := by
  induction order generalizing t with
  | nil => exact ht h
  | cons j order ih =>
    refine ih (fun hturn => ?_) h
    rcases eq_or_ne j i with rfl | hij
    · cases hp : t.programs[j]? with
      | none =>
        rw [turn_of_none hp] at hturn
        exact ht hturn
      | some p =>
        rw [own_turn_of_some hp] at hturn
        exact (List.mem_append.mp hturn).elim ht exists_state_of_mem_turn
    · rw [own_turn_of_ne hij] at hturn
      exact ht hturn

/-! ### Counting -/

theorem length_programs_run (server : Nat → Server σ) (t : Together σ α) (order : List Nat) :
    (t.run server order).programs.length = t.programs.length := by
  induction order generalizing t with
  | nil => rfl
  | cons i order ih =>
    have hone : (t.turn server i).programs.length = t.programs.length := by
      cases hp : t.programs[i]? with
      | none => rw [turn_of_none hp]
      | some p => rw [turn_of_some hp, List.length_set]
    exact (ih (t.turn server i)).trans hone

/-- Only programs that there are do anything. -/
theorem lt_length_of_mem_history {server : Nat → Server σ} {t : Together σ α} {order : List Nat}
    (ht : ∀ entry ∈ t.history, entry.1 < t.programs.length) :
    ∀ entry ∈ (t.run server order).history, entry.1 < t.programs.length := by
  induction order generalizing t with
  | nil => exact ht
  | cons i order ih =>
    have hlength : (t.turn server i).programs.length = t.programs.length :=
      length_programs_run server t [i]
    have hturn : ∀ entry ∈ (t.turn server i).history,
        entry.1 < (t.turn server i).programs.length := by
      rw [hlength]
      cases hp : t.programs[i]? with
      | none => rwa [turn_of_none hp]
      | some p =>
        rw [turn_of_some hp]
        intro entry hentry
        rcases List.mem_append.mp hentry with hbefore | hnew
        · exact ht entry hbefore
        · obtain ⟨event, -, rfl⟩ := List.mem_map.mp hnew
          exact (List.getElem?_eq_some_iff.mp hp).1
    rw [← hlength]
    exact ih hturn

theorem exists_mem_own_of_mem_events {t : Together σ α} {n : Nat}
    (ht : ∀ entry ∈ t.history, entry.1 < n) {event : Event} (h : event ∈ t.events) :
    ∃ i < n, event ∈ t.own i := by
  obtain ⟨⟨i, _⟩, hentry, rfl⟩ := List.mem_map.mp h
  exact ⟨i, ht _ hentry, List.mem_filterMap.mpr ⟨_, hentry, if_pos rfl⟩⟩

/-- What is counted event by event is the sum of what is counted for each program. -/
theorem count_events (count : History → Nat) (hnil : count [] = 0)
    (happend : ∀ h₁ h₂, count (h₁ ++ h₂) = count h₁ + count h₂) {t : Together σ α} {n : Nat}
    (ht : ∀ entry ∈ t.history, entry.1 < n) :
    count t.events = ∑ i ∈ Finset.range n, count (t.own i) := by
  rw [events]
  simp only [own]
  generalize t.history = history at ht
  induction history with
  | nil => simp [hnil]
  | cons entry history ih =>
    obtain ⟨i, event⟩ := entry
    have hi : i ∈ Finset.range n := Finset.mem_range.mpr (ht _ List.mem_cons_self)
    -- The first entry is counted for the program that it belongs to, and for no other.
    have hfirst : ∀ j, count (((i, event) :: history).filterMap
          fun (k, event) => if k = j then some event else none) =
        (if i = j then count [event] else 0) + count (history.filterMap
          fun (k, event) => if k = j then some event else none) := by
      intro j
      rw [List.filterMap_cons]
      by_cases hij : i = j
      · simp only [if_pos hij]
        exact happend [event] _
      · simp only [if_neg hij, Nat.zero_add]
    have hhead : count (event :: history.map Prod.snd) =
        count [event] + count (history.map Prod.snd) := happend [event] _
    simp only [hfirst, Finset.sum_add_distrib, Finset.sum_ite_eq, if_pos hi]
    rw [List.map_cons, hhead, ih fun other hother => ht other (List.mem_cons_of_mem _ hother)]

end Together

end VectorTable
