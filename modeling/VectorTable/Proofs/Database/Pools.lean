import VectorTable.Proofs.Database.Inner

/-!
# The pools of a database

A database knows one pool, but the server may have several that were made for it. Each pool that is made is current from then on until another takes its place or the database is closed; closing hands back the current one. A pool whose place was taken is known to nobody and stays open.

The pools are counted along the history of any program that connects, closes and works on connections in any order. Every pool that was made is open or has been closed, and closed once; the open pools are the current one and those that were lost, and a pool is lost each time that connecting succeeds while the database is connected.
-/

namespace VectorTable

/-- The pools made in a history, numbered in the order in which they were made. A pool is lost when another takes its place. -/
structure Pools where
  made : Nat
  current : Option Nat
  leaving : Option Nat
  lost : List Nat
  closed : List Nat

namespace Pools

def empty : Pools := ⟨0, none, none, [], []⟩

def after (p : Pools) : Event → Pools
  | .contact (.createPool _) (.ok _) => { p with made := p.made + 1 }
  | .note .poolOpened =>
    { p with current := some (p.made - 1), lost := p.lost ++ p.current.toList }
  | .note .poolDropped => { p with current := none, leaving := p.current }
  | .contact .closePool (.ok _) =>
    { p with leaving := none, closed := p.closed ++ p.leaving.toList }
  | _ => p

def afterAll (p : Pools) (h : History) : Pools := h.foldl after p

/-- The pools that the server still keeps open. -/
def stillOpen (p : Pools) : List Nat := p.lost ++ p.leaving.toList ++ p.current.toList

theorem afterAll_append (p : Pools) (h₁ h₂ : History) :
    p.afterAll (h₁ ++ h₂) = (p.afterAll h₁).afterAll h₂ := List.foldl_append

theorem after_of_isInner (p : Pools) {event : Event} (hinner : event.isInner = true) :
    p.after event = p := by
  cases event with
  | contact contact reply => cases contact <;> first | rfl | cases hinner
  | note note => cases note <;> first | rfl | cases hinner

theorem afterAll_of_isInner (p : Pools) {h : History}
    (hinner : ∀ event ∈ h, event.isInner = true) : p.afterAll h = p := by
  induction h with
  | nil => rfl
  | cons event h ih =>
    rw [afterAll, List.foldl_cons, p.after_of_isInner (hinner event List.mem_cons_self)]
    exact ih fun other hother => hinner other (List.mem_cons_of_mem event hother)

end Pools

/-- Whether a pool is made at an event. -/
def Event.makesPool : Event → Bool
  | .contact (.createPool _) (.ok _) => true
  | _ => false

/-- How often a pool is made in a history while another is open. -/
def reconnections (m : Memory) : History → Nat
  | [] => 0
  | event :: h =>
    (if event.makesPool && m.connected then 1 else 0) + reconnections (m.after event) h

theorem reconnections_append (m : Memory) (h₁ h₂ : History) :
    reconnections m (h₁ ++ h₂) = reconnections m h₁ + reconnections (m.afterAll h₁) h₂ := by
  induction h₁ generalizing m with
  | nil => exact (Nat.zero_add _).symm
  | cons event h₁ ih =>
    rw [List.cons_append, reconnections, ih, ← Nat.add_assoc]
    rfl

theorem reconnections_of_isInner (m : Memory) {h : History}
    (hinner : ∀ event ∈ h, event.isInner = true) : reconnections m h = 0 := by
  induction h generalizing m with
  | nil => rfl
  | cons event h ih =>
    have hmakes : event.makesPool = false := by
      have hfirst := hinner event List.mem_cons_self
      cases event with
      | contact contact reply => cases contact <;> first | rfl | cases hfirst
      | note note => rfl
    rw [reconnections, hmakes, ih _ fun other hother => hinner other (List.mem_cons_of_mem event hother)]
    rfl

/-- The server closes every pool that it is asked to close. -/
def ClosesPools (h : History) : Prop :=
  ∀ reply, .contact .closePool reply ∈ h → ∃ value, reply = .ok value

theorem ClosesPools.mono {h₁ h₂ : History} (hcloses : ClosesPools h₂) (hsub : h₁ ⊆ h₂) :
    ClosesPools h₁ := fun reply hreply => hcloses reply (hsub hreply)

/-- Each pool that was made is open or has been closed, none has been closed twice, and so many are open. -/
structure Pools.AreAccounted (p : Pools) (count : Nat) : Prop where
  made : (List.range p.made).Perm (p.closed ++ p.stillOpen)
  closed : p.closed.Nodup
  stillOpen : p.stillOpen.length = count

/-- Pools that are all accounted for between two steps, when the database says whether it is connected and a number of them have been lost. -/
structure Pools.Balanced (p : Pools) (connected : Bool) (lost : Nat) : Prop where
  current : p.current.isSome = connected
  leaving : p.leaving = none
  lost : p.lost.length = lost
  made : (List.range p.made).Perm (p.closed ++ p.lost ++ p.current.toList)

namespace Pools.Balanced

variable {p : Pools} {m : Memory} {lost : Nat}

theorem empty : Pools.empty.Balanced false 0 := ⟨rfl, rfl, rfl, .refl _⟩

theorem inner (hp : p.Balanced m.connected lost) {h : History}
    (hinner : ∀ event ∈ h, event.isInner = true) :
    (p.afterAll h).Balanced (m.afterAll h).connected (lost + reconnections m h) := by
  rw [p.afterAll_of_isInner hinner, Memory.connected_afterAll hinner,
    reconnections_of_isInner m hinner]
  exact hp

/-- Making a pool takes the place of the current one, which is lost. -/
theorem made_opened (hp : p.Balanced m.connected lost) (options : PoolOptions) (value : Value) :
    (p.afterAll [.contact (.createPool options) (.ok value), .note .poolOpened]).Balanced true
      (lost + if m.connected then 1 else 0) := by
  refine ⟨rfl, hp.leaving, ?_, ?_⟩
  · show (p.lost ++ p.current.toList).length = _
    rw [List.length_append, hp.lost, ← hp.current]
    cases p.current <;> rfl
  · show (List.range (p.made + 1)).Perm (p.closed ++ (p.lost ++ p.current.toList) ++ [p.made])
    rw [List.range_succ, ← List.append_assoc]
    exact hp.made.append_right _

/-- Closing hands back the current pool, which is not lost. -/
theorem dropped_closed (hp : p.Balanced m.connected lost) (value : Value) :
    (p.afterAll [.note .poolDropped, .contact .closePool (.ok value)]).Balanced false lost := by
  refine ⟨rfl, rfl, hp.lost, ?_⟩
  show (List.range p.made).Perm (p.closed ++ p.current.toList ++ p.lost ++ [])
  rw [List.append_nil, List.append_assoc]
  refine hp.made.trans ?_
  rw [List.append_assoc]
  exact List.perm_append_comm.append_left _

theorem length_stillOpen {connected : Bool} (hp : p.Balanced connected lost) :
    p.stillOpen.length = lost + connected.toNat := by
  rw [Pools.stillOpen, hp.leaving, ← hp.current, ← hp.lost]
  cases p.current <;> simp

theorem perm_stillOpen {connected : Bool} (hp : p.Balanced connected lost) :
    (List.range p.made).Perm (p.closed ++ p.stillOpen) := by
  rw [Pools.stillOpen, hp.leaving, Option.toList_none, List.append_nil, ← List.append_assoc]
  exact hp.made

theorem areAccounted {connected : Bool} (hp : p.Balanced connected lost) :
    p.AreAccounted (lost + connected.toNat) := by
  refine ⟨hp.perm_stillOpen, ?_, hp.length_stillOpen⟩
  exact (List.nodup_append.mp (hp.perm_stillOpen.nodup_iff.mp List.nodup_range)).1

end Pools.Balanced

/-! ### What is done with a database -/

namespace Database

open Program

variable {α β σ : Type}

/-- Programs that use a database. They connect, close and work on connections in any order, and what comes next may depend on how the last step ended. -/
inductive Uses : {α : Type} → Program α → Prop
  | connect (options : PoolOptions) : Uses (Database.connect options)
  | close : Uses Database.close
  | inner {α : Type} {p : Program α} (h : p.IsInner) : Uses p
  | settle {α β : Type} {p : Program α} {k : Except Failure α → Program β} (hp : Uses p)
    (hk : ∀ result, Uses (k result)) : Uses (p.settle k)

theorem Uses.bind {p : Program α} {f : α → Program β} (hp : Uses p) (hf : ∀ a, Uses (f a)) :
    Uses (p >>= f) := by
  apply hp.settle
  rintro (failure | a)
  · exact .inner (.done _)
  · exact hf a

/-- A block that opens the database and closes it on every way out. -/
theorem Uses.during {work : Program α} (hwork : Uses work) (options : PoolOptions) :
    Uses (during options work) :=
  (Uses.connect options).bind fun _ => hwork.settle fun _ => Uses.close.bind fun _ => .inner (.done _)

theorem uses_isConnected : Uses isConnected := .inner (.look fun _ => .done _)

/-- The induction is on how the program is put together. What carries it is the balance between the steps, from which each step goes on. -/
theorem Uses.balanced_afterAll {p : Program α} (hp : Uses p) {m : Memory} {h : History}
    {r : Except Failure α} (hpath : Path p m h r) (hcloses : ClosesPools h) {pools : Pools}
    {lost : Nat} (hpools : pools.Balanced m.connected lost) :
    (pools.afterAll h).Balanced (m.afterAll h).connected (lost + reconnections m h) := by
  induction hp generalizing m h pools lost with
  | connect options =>
    rcases path_connect hpath with ⟨fault, rest, rfl, hrest, -, -⟩ | ⟨value, entry, rfl, -⟩
    · have hend := Pools.Balanced.inner (m := m) hpools hrest
      rwa [← Nat.zero_add (reconnections m rest)] at hend
    · exact hpools.made_opened options value
  | close =>
    rcases path_close hpath with ⟨-, rfl, -⟩ | ⟨-, fault, rfl, -⟩ | ⟨-, value, entry, rfl, -⟩
    · exact hpools
    · obtain ⟨value, hvalue⟩ := hcloses (.error fault) (by simp)
      cases hvalue
    · exact hpools.dropped_closed value
  | inner hinner => exact hpools.inner (hinner.isInner_of_mem hpath)
  | settle _ _ ihp ihk =>
    obtain ⟨h₁, h₂, result, rfl, hfirst, hrest⟩ := path_settle_iff.mp hpath
    have hmiddle := ihp hfirst (hcloses.mono (List.subset_append_left h₁ h₂)) hpools
    have hend := ihk result hrest (hcloses.mono (List.subset_append_right h₁ h₂)) hmiddle
    rw [Pools.afterAll_append, Memory.afterAll, List.foldl_append, reconnections_append,
      ← Nat.add_assoc]
    exact hend

/-- A server that closes every pool that it is asked to close. -/
def Closes (server : Server σ) : Prop :=
  ∀ state, ∃ value, (server state .closePool).1 = .ok value

theorem closesPools_run {server : Server σ} (hserver : Closes server) (p : Program α) (state : σ)
    (m : Memory) : ClosesPools (p.run server state m).history := by
  intro reply hreply
  obtain ⟨state, hstate⟩ := exists_state_of_mem_run hreply
  obtain ⟨value, hvalue⟩ := hserver state
  exact ⟨value, hstate.symm.trans hvalue⟩

/-- Whatever is done with a database, and whatever its server does but for closing pools, every pool that was made is open or has been closed, and none has been closed twice. The database tells whether it has a current pool; besides that one, there is an open pool for each time that connecting succeeded while the database was connected, also after it has been closed. Only if that never happened is there at most one open pool, the database connected as long as there is one, and every pool closed once the database has been closed. -/
theorem pools_run {p : Program α} (hp : Uses p) {server : Server σ} (hserver : Closes server)
    (state : σ) {m : Memory} (hfresh : m.connected = false) :
    (∃ connected, ((p.settle fun _ => isConnected).run server state m).result = .ok connected ∧
      let h := ((p.settle fun _ => isConnected).run server state m).history
      (Pools.empty.afterAll h).AreAccounted (reconnections m h + connected.toNat)) ∧
    let h := ((p.settle fun _ => close).run server state m).history
    (Pools.empty.afterAll h).AreAccounted (reconnections m h) := by
  have hstart : Pools.empty.Balanced m.connected 0 := by
    rw [hfresh]
    exact .empty
  constructor
  · let whole := p.settle fun _ => isConnected
    have hpath := path_run server whole state m
    have hbalanced := (hp.settle fun _ => uses_isConnected).balanced_afterAll hpath
      (closesPools_run hserver whole state m) hstart
    -- Nothing happens between the last step and the answer of the database.
    obtain ⟨h₁, h₂, result, hh, -, hlast⟩ := path_settle_iff.mp hpath
    obtain ⟨rfl, hresult⟩ := path_done_iff.mp (path_look_iff.mp hlast)
    rw [List.append_nil] at hh
    rw [hh, Nat.zero_add] at hbalanced
    refine ⟨(m.afterAll h₁).connected, hresult, ?_⟩
    rw [hh]
    exact hbalanced.areAccounted
  · let whole := p.settle fun _ => close
    have hpath := path_run server whole state m
    have hcloses := closesPools_run hserver whole state m
    have hbalanced := (hp.settle fun _ => Uses.close).balanced_afterAll hpath hcloses hstart
    have hclosed : (m.afterAll (whole.run server state m).history).connected = false := by
      obtain ⟨h₁, h₂, result, hh, -, hlast⟩ := path_settle_iff.mp hpath
      rw [hh, Memory.afterAll, List.foldl_append]
      rw [hh] at hcloses
      exact connected_afterAll_close hlast
    rw [hclosed, Nat.zero_add] at hbalanced
    exact hbalanced.areAccounted

theorem pools_run_connected_twice :
    let options : PoolOptions := ⟨"postgresql://localhost/vectors", .int 1, .int 10, .int 60⟩
    let server : Server Unit := fun _ _ => (.ok .null, ())
    let twice := connect options >>= fun _ => connect options
    let h := ((twice.settle fun _ => close).run server () .fresh).history
    Uses twice ∧ Closes server ∧ Memory.fresh.connected = false ∧ reconnections .fresh h = 1 ∧
      (Pools.empty.afterAll h).AreAccounted 1 := by
  intro options server twice h
  have huses : Uses twice := (Uses.connect options).bind fun _ => .connect options
  have hcloses : Closes server := fun _ => ⟨.null, rfl⟩
  have hagain : reconnections .fresh h = 1 := rfl
  have haccounted := (pools_run huses hcloses () (m := .fresh) rfl).2
  exact ⟨huses, hcloses, rfl, hagain, hagain ▸ haccounted⟩

/-- Two pools are open after connecting twice, and one of them is never closed. -/
theorem not_closed_connect_connect :
    let options : PoolOptions := ⟨"postgresql://localhost/vectors", .int 1, .int 10, .int 60⟩
    let server : Server Unit := fun _ _ => (.ok .null, ())
    let twice := connect options >>= fun _ => connect options
    let before := Pools.empty.afterAll (twice.run server () .fresh).history
    let o := (twice.settle fun _ => close).run server () .fresh
    let after := Pools.empty.afterAll o.history
    ¬ before.stillOpen.length ≤ 1 ∧ o.result = .ok () ∧ ¬ (List.range after.made).Perm after.closed ∧
      (Memory.fresh.afterAll o.history).connected = false ∧ after.stillOpen.length = 1 := by
  refine ⟨?_, rfl, ?_, rfl, rfl⟩
  · show ¬ 2 ≤ 1
    decide
  · show ¬ (List.range 2).Perm [1]
    decide

end Database

end VectorTable
