import VectorTable.CommandLine.Run
import VectorTable.Proofs.Store.Completion

/-!
# Sessions

A command opens the database, works, and closes the database again. What can be seen from outside of such a session is the use it makes of the pool, its exit code and what it prints. Work that tells of its success in the last line it prints, and only then, makes a session that can be trusted: whoever sees a zero exit code or the line knows that everything has been carried out.
-/

namespace VectorTable

open Program

/-- The texts that are printed in a history, in order. -/
def printed (h : History) : List String :=
  h.filterMap fun
    | .note (.printed text) => some text
    | _ => none

@[simp] theorem printed_nil : printed [] = [] := rfl

@[simp] theorem printed_append (h₁ h₂ : History) : printed (h₁ ++ h₂) = printed h₁ ++ printed h₂ :=
  List.filterMap_append

theorem printed_of_isInner {h : History} (hinner : ∀ event ∈ h, event.isInner = true) :
    printed h = [] := by
  rw [printed, List.filterMap_eq_nil_iff]
  intro event hevent
  have hfirst := hinner event hevent
  cases event with
  | contact => rfl
  | note note => cases note <;> first | rfl | cases hfirst

theorem isInner_of_mem_exchanges {h : History} (hinner : ∀ event ∈ h, event.isInner = true) :
    ∀ exchange ∈ exchanges h, exchange.1.isInner = true :=
  fun _ hexchange => hinner _ (mem_exchanges_iff.mp hexchange)

/-! ### Escapes -/

namespace Text

theorem dropEscapes_append {cs : List Char} (hcs : '\x1b' ∉ cs) (rest : List Char) :
    dropEscapes 0 (cs ++ rest) = cs ++ dropEscapes 0 rest := by
  induction cs with
  | nil => rfl
  | cons c cs ih =>
    have hc : ¬ c = '\x1b' := fun heq => hcs (heq ▸ List.mem_cons_self)
    have hrest := ih fun hmem => hcs (List.mem_cons_of_mem c hmem)
    rw [List.cons_append, dropEscapes, if_neg hc, hrest]
    rfl

/-- What is printed begins with the same words, if there is no escape in them. -/
theorem prefix_withoutEscapes {words : String} (hwords : '\x1b' ∉ words.toList) (rest : String) :
    words.toList <+: (withoutEscapes (words ++ rest)).toList := by
  rw [withoutEscapes, String.toList_ofList, String.toList_append, dropEscapes_append hwords]
  exact List.prefix_append _ _

end Text

/-! ### The use of the pool -/

/-- The exchanges of a session: nothing at all, a pool that cannot be made, or a pool that is made first and closed last and only once. -/
inductive PoolUse : List (Contact × Reply) → Prop
  | silent : PoolUse []
  | refused (options : PoolOptions) (fault : Fault) : PoolUse [(.createPool options, .error fault)]
  | closed {work : List (Contact × Reply)}
    (hwork : ∀ exchange ∈ work, exchange.1.isInner = true) (options : PoolOptions) (value : Value)
    (reply : Reply) : PoolUse ((.createPool options, .ok value) :: work ++ [(.closePool, reply)])

/-- Every server step but the closing of the pool has succeeded, and what was built has been committed. -/
structure IsAccomplished (built : Except Failure (List Statement)) (h : History) : Prop where
  replies : ∀ contact reply, (contact, reply) ∈ exchanges h → contact ≠ .closePool →
    ∃ value, reply = .ok value
  committed : built = .ok (committed h)

theorem Carried.isAccomplished {built : Except Failure (List Statement)} {sent : List Statement}
    {hw h : History} (hcarried : Carried sent hw) (hbuilt : built = .ok sent)
    {options : PoolOptions} {value : Value} {reply : Reply}
    (hh : exchanges h =
      (.createPool options, .ok value) :: exchanges hw ++ [(.closePool, reply)]) :
    IsAccomplished built h where
  replies contact answer hmem hother := by
    rw [hh] at hmem
    rcases List.mem_append.mp hmem with hmem | hlast
    · rcases List.mem_cons.mp hmem with heq | hmem
      · cases heq
        exact ⟨value, rfl⟩
      · exact hcarried.replies _ _ hmem
    · cases List.mem_singleton.mp hlast
      exact absurd rfl hother
  committed := by
    have hstart : Ledger.empty.after (.createPool options, .ok value) = ⟨[], []⟩ := rfl
    have hend : (Ledger.mk ([] ++ sent) []).after (.closePool, reply) = ⟨sent, []⟩ := rfl
    rw [hbuilt, VectorTable.committed, hh, List.cons_append, List.foldl_cons, hstart,
      List.foldl_append, hcarried.ledger, List.foldl_cons, hend]
    rfl

namespace CommandLine

/-- What a session shows to the outside. The pool is closed once if it was opened. A zero exit code and a line that begins with the words of success each mean that everything was done. -/
structure IsTrustworthy (words : String) (done : Prop) (h : History) (r : Except Failure Nat) :
    Prop where
  pool : PoolUse (exchanges h)
  exit : exitCode r = 0 → done
  line : ∀ text ∈ printed h, words.toList <+: text.toList → done

end CommandLine

/-! ### Opening and closing -/

namespace Database

variable {α : Type}

theorem path_close_bind_connected {result : Except Failure α} {m : Memory} {h : History}
    {r : Except Failure α} (hconnected : m.connected = true)
    (hpath : Path (close >>= fun _ => ofExcept result) m h r) :
    ∃ reply, exchanges h = [(.closePool, reply)] ∧ printed h = [] ∧ r = afterReply result reply := by
  rcases path_bind_iff.mp hpath with ⟨failure, hclose, rfl⟩ | ⟨h₁, h₂, _, rfl, hclose, hlast⟩
  · rcases path_close hclose with ⟨-, -, heq⟩ | ⟨-, fault, rfl, heq⟩ | ⟨-, _, _, -, heq⟩
    · cases heq
    · cases heq
      exact ⟨.error fault, rfl, rfl, rfl⟩
    · cases heq
  · obtain ⟨rfl, rfl⟩ := path_done_iff.mp hlast
    rcases path_close hclose with ⟨hnone, -, -⟩ | ⟨-, _, -, heq⟩ | ⟨-, value, entry, rfl, -⟩
    · rw [hconnected] at hnone
      cases hnone
    · cases heq
    · exact ⟨.ok value, rfl, rfl, rfl⟩

theorem path_close_bind_unconnected {result : Except Failure α} {m : Memory} {h : History}
    {r : Except Failure α} (hunconnected : m.connected = false)
    (hpath : Path (close >>= fun _ => ofExcept result) m h r) : h = [] ∧ r = result := by
  have hclose : ∀ h' r', Path close m h' r' → h' = [] ∧ r' = .ok () := by
    intro h' r' hpath'
    rcases path_close hpath' with ⟨-, rfl, rfl⟩ | ⟨hopen, -⟩ | ⟨hopen, -⟩
    · exact ⟨rfl, rfl⟩
    · rw [hunconnected] at hopen
      cases hopen
    · rw [hunconnected] at hopen
      cases hopen
  rcases path_bind_iff.mp hpath with ⟨failure, hfailed, -⟩ | ⟨h₁, h₂, _, rfl, hdone, hlast⟩
  · cases (hclose _ _ hfailed).2
  · obtain ⟨rfl, -⟩ := hclose _ _ hdone
    exact path_done_iff.mp hlast

/-- The paths of work between opening and closing: the database cannot be opened, or the work is done and the database is closed after it. -/
theorem path_during {options : PoolOptions} {work : Program α} {m : Memory} {h : History}
    {r : Except Failure α}
    (hwork : ∀ m hw result, Path work m hw result → (m.afterAll hw).connected = m.connected)
    (hpath : Path (during options work) m h r) :
    (∃ fault, exchanges h = [(.createPool options, .error fault)] ∧ printed h = [] ∧
        r = .error (.fault fault)) ∨
      ∃ m' hw result value reply, Path work m' hw result ∧ printed h = printed hw ∧
        exchanges h = (.createPool options, .ok value) :: exchanges hw ++ [(.closePool, reply)] ∧
        r = afterReply result reply := by
  rcases path_bind_iff.mp hpath with ⟨failure, hopen, rfl⟩ | ⟨ho, hs, _, rfl, hopen, hrest⟩
  · rcases path_connect hopen with ⟨fault, rest, rfl, hinner, hrest, heq⟩ | ⟨_, _, _, heq⟩
    · cases heq
      refine .inl ⟨fault, ?_, ?_, rfl⟩
      · rw [exchanges_contact, hrest]
      · show printed rest = []
        exact printed_of_isInner hinner
    · cases heq
  · rcases path_connect hopen with ⟨_, _, _, _, _, heq⟩ | ⟨value, entry, rfl, -⟩
    · cases heq
    obtain ⟨hw, hc, result, rfl, hinner, hclose⟩ := path_settle_iff.mp hrest
    obtain ⟨reply, hexchanges, hprinted, hr⟩ :=
      path_close_bind_connected (hwork _ _ _ hinner) hclose
    refine .inr ⟨_, hw, result, value, reply, hinner, ?_, ?_, hr⟩
    · rw [printed_append, printed_append, hprinted, List.append_nil]
      rfl
    · rw [exchanges_append, exchanges_append, hexchanges]
      rfl

end Database

/-! ### Work that tells of its success -/

namespace CommandLine

open Text (withoutEscapes)

theorem path_echo {text : String} {m : Memory} {h : History} {r : Except Failure Unit}
    (hpath : Path (echo text) m h r) :
    h = [.note (.printed (withoutEscapes text))] ∧ r = .ok () := by
  obtain ⟨rest, rfl, hrest⟩ := path_tell_iff.mp hpath
  obtain ⟨rfl, rfl⟩ := path_done_iff.mp hrest
  exact ⟨rfl, rfl⟩

/-- The paths of work that may be reported: it succeeds, or it fails and that is told, or it fails and nobody handles that. -/
theorem path_reporting {words : String} {work : Program Unit} {m : Memory} {h : History}
    {r : Except Failure Nat} (hpath : Path (reporting words work) m h r) :
    (Path work m h (.ok ()) ∧ r = .ok 0) ∨
      ∃ failure hw, Path work m hw (.error failure) ∧
        ((h = hw ++ [.note (.printed
            (withoutEscapes ("Failed to " ++ words ++ ": " ++ failure.message)))] ∧ r = .ok 1) ∨
          (h = hw ∧ r = .error failure)) := by
  obtain ⟨hw, hend, result, rfl, hwork, hlast⟩ := path_settle_iff.mp hpath
  cases result with
  | ok _ =>
    obtain ⟨rfl, rfl⟩ := path_done_iff.mp hlast
    rw [List.append_nil]
    exact .inl ⟨hwork, rfl⟩
  | error failure =>
    refine .inr ⟨failure, hw, hwork, ?_⟩
    dsimp only at hlast
    split at hlast
    · obtain ⟨h₁, h₂, _, rfl, hecho, hdone⟩ := path_settle_iff.mp hlast
      obtain ⟨rfl, rfl⟩ := path_echo hecho
      obtain ⟨rfl, rfl⟩ := path_done_iff.mp hdone
      exact .inl ⟨rfl, rfl⟩
    · obtain ⟨rfl, rfl⟩ := path_done_iff.mp hlast
      exact .inr ⟨List.append_nil hw, rfl⟩

/-- Work inside an open database that carries out what was built for it and then prints one line that begins with some words; if it fails, it prints nothing. -/
def Announces (words : String) (built : Except Failure (List Statement)) (p : Program Unit) :
    Prop :=
  ∀ m h r, Path p m h r →
    (∃ failure, r = .error failure ∧ ∀ event ∈ h, event.isInner = true) ∨
      r = .ok () ∧ ∃ sent hw line, built = .ok sent ∧ Carried sent hw ∧
        (∀ event ∈ hw, event.isInner = true) ∧ words.toList <+: line.toList ∧
        h = hw ++ [.note (.printed line)]

theorem announces_bind_echo {α : Type} {built : Except Failure (List Statement)} {work : Program α}
    (hwork : Completes built work) {words : String} (hwords : '\x1b' ∉ words.toList)
    (rest : α → String) : Announces words built (work >>= fun a => echo (words ++ rest a)) := by
  intro m h r hpath
  rcases path_bind_iff.mp hpath with ⟨failure, hfailed, rfl⟩ | ⟨hw, hlast, a, rfl, hdone, hecho⟩
  · exact .inl ⟨failure, rfl, hwork.inner.isInner_of_mem hfailed⟩
  · obtain ⟨rfl, rfl⟩ := path_echo hecho
    obtain ⟨sent, hbuilt, hcarried⟩ := hwork.carried _ _ _ hdone
    exact .inr ⟨rfl, sent, hw, _, hbuilt, hcarried, hwork.inner.isInner_of_mem hdone,
      Text.prefix_withoutEscapes hwords (rest a), rfl⟩

theorem connected_afterAll_append_printed {hw : History}
    (hinner : ∀ event ∈ hw, event.isInner = true) (m : Memory) (text : String) :
    (m.afterAll (hw ++ [.note (.printed text)])).connected = m.connected := by
  rw [Memory.afterAll, List.foldl_append]
  exact Memory.connected_afterAll hinner m

/-- A line that tells of a failure does not begin with the words of success. -/
theorem not_prefix_failed {words : String} {c : Char} {cs : List Char}
    (hwords : words.toList = c :: cs) (hc : c ≠ 'F') (rest : String) :
    ¬ words.toList <+: (withoutEscapes ("Failed to " ++ rest)).toList := by
  intro hprefix
  have hfailed := Text.prefix_withoutEscapes (by decide : '\x1b' ∉ "Failed to ".toList) rest
  obtain ⟨more, hmore⟩ := hprefix
  obtain ⟨others, hothers⟩ := hfailed
  have hhead := congrArg List.head? (hmore.trans hothers.symm)
  rw [hwords] at hhead
  exact hc (Option.some.inj hhead)

theorem exitCode_afterReply {result : Except Failure Nat} {reply : Reply}
    (h : exitCode (afterReply result reply) = 0) : exitCode result = 0 := by
  cases reply with
  | ok value => exact h
  | error fault => cases h

section Announces

variable {words aim : String} {built : Except Failure (List Statement)} {work : Program Unit}
  {m : Memory} {h : History} {r : Except Failure Nat}

theorem Announces.path_reporting (hwork : Announces words built work) {c : Char} {cs : List Char}
    (hwords : words.toList = c :: cs) (hc : c ≠ 'F') (hpath : Path (reporting aim work) m h r) :
    (∀ exchange ∈ exchanges h, exchange.1.isInner = true) ∧
      (m.afterAll h).connected = m.connected ∧
      ((∃ sent, built = .ok sent ∧ Carried sent h) ∨
        exitCode r ≠ 0 ∧ ∀ text ∈ printed h, ¬ words.toList <+: text.toList) := by
  rcases CommandLine.path_reporting hpath with ⟨hdone, rfl⟩ | ⟨failure, hw, hfailed, hend⟩
  · rcases hwork _ _ _ hdone with ⟨_, heq, -⟩ | ⟨-, sent, hw, line, hbuilt, hcarried, hinner, -, rfl⟩
    · cases heq
    have hsame : exchanges (hw ++ [.note (.printed line)]) = exchanges hw := by simp
    refine ⟨?_, connected_afterAll_append_printed hinner m line,
      .inl ⟨sent, hbuilt, hcarried.congr hsame⟩⟩
    rw [hsame]
    exact isInner_of_mem_exchanges hinner
  · rcases hwork _ _ _ hfailed with ⟨_, -, hinner⟩ | ⟨heq, -⟩
    · rcases hend with ⟨rfl, rfl⟩ | ⟨rfl, rfl⟩
      · refine ⟨?_, connected_afterAll_append_printed hinner m _, .inr ⟨nofun, ?_⟩⟩
        · simpa using isInner_of_mem_exchanges hinner
        · intro text htext
          rw [printed_append, printed_of_isInner hinner] at htext
          obtain rfl := List.mem_singleton.mp htext
          rw [String.append_assoc, String.append_assoc]
          exact not_prefix_failed hwords hc _
      · refine ⟨isInner_of_mem_exchanges hinner, Memory.connected_afterAll hinner m,
          .inr ⟨nofun, ?_⟩⟩
        rw [printed_of_isInner hinner]
        exact nofun
    · cases heq

theorem Announces.isTrustworthy (hwork : Announces words built work) {c : Char} {cs : List Char}
    (hwords : words.toList = c :: cs) (hc : c ≠ 'F') {options : PoolOptions}
    (hpath : Path (Database.during options (reporting aim work)) m h r) :
    IsTrustworthy words (IsAccomplished built h) h r := by
  have hconnected : ∀ m hw result, Path (reporting aim work) m hw result →
      (m.afterAll hw).connected = m.connected :=
    fun _ _ _ hinner => (hwork.path_reporting hwords hc hinner).2.1
  rcases Database.path_during hconnected hpath with ⟨fault, hexchanges, hprinted, rfl⟩ |
    ⟨m', hw, result, value, reply, hinner, hprinted, hexchanges, rfl⟩
  · refine ⟨hexchanges ▸ .refused options fault, nofun, ?_⟩
    rw [hprinted]
    exact nofun
  · obtain ⟨hcontacts, -, hend⟩ := hwork.path_reporting hwords hc hinner
    have hdone : (∃ sent, built = .ok sent ∧ Carried sent hw) → IsAccomplished built h := by
      rintro ⟨sent, hbuilt, hcarried⟩
      exact hcarried.isAccomplished hbuilt hexchanges
    refine ⟨hexchanges ▸ .closed hcontacts options value reply, fun hexit => ?_, fun text htext hline => ?_⟩
    · rcases hend with hdone' | ⟨hcode, -⟩
      · exact hdone hdone'
      · exact absurd (exitCode_afterReply hexit) hcode
    · rcases hend with hdone' | ⟨-, hlines⟩
      · exact hdone hdone'
      · exact absurd hline (hlines text (hprinted ▸ htext))

end Announces

end CommandLine

end VectorTable
