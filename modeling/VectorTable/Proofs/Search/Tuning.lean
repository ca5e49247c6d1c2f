import VectorTable.Proofs.Program.Erasure
import VectorTable.Proofs.Search.Ranking
import VectorTable.Proofs.Sql.Text
import VectorTable.Proofs.Store.Course

/-!
# Searches whose tuning is rejected

Before a search asks for rows it makes the settings it is tuned with, each in a savepoint of its own. The server may reject any of them: the savepoint is undone, a warning is logged, and the search goes on. The tuning can then be left out of the history, savepoints, settings and warnings, and what is left is the history of a search without tuning. So two searches that are answered alike apart from their tuning end alike, whatever settings are tried and whichever of them are rejected.
-/

namespace VectorTable

open Program

/-! ### What belongs to the tuning -/

/-- Whether a statement makes a setting that ends with its transaction. -/
def Statement.isLocalSetting (statement : Statement) : Bool :=
  "SET LOCAL ".toList.isPrefixOf statement.sql.toList

def Log.Entry.isTuningWarning (entry : Entry) : Bool :=
  match entry.content with
  | .event name _ => name == "Ignoring index tuning parameter"
  | .line _ => false

namespace Event

/-- Savepoints, settings that end with their transaction, and warnings that one of these was rejected. -/
def isTuning : Event → Bool
  | .contact (.enter .savepoint) _ | .contact (.complete .savepoint) _
  | .contact (.undo .savepoint) _ => true
  | .contact (.statement statement) _ => statement.isLocalSetting
  | .note (.log entry) => entry.isTuningWarning
  | _ => false

/-- Whether an event is compatible with a tuning of which nothing worse happens than that settings are rejected. -/
def isTolerable : Event → Bool
  | .contact (.enter .savepoint) reply | .contact (.complete .savepoint) reply
  | .contact (.undo .savepoint) reply => reply.isOk
  | .contact (.statement statement) (.error fault) => !statement.isLocalSetting || fault.isAnswer
  | _ => true

theorem isTuning_log {name : String} (hname : name ≠ "Ignoring index tuning parameter")
    (logger : String) (level : Log.Level) (fields : List (String × Value)) :
    (note (.log (Log.event logger level name fields))).isTuning = false :=
  beq_eq_false_iff_ne.mpr hname

end Event

/-- The tuning of a search is left out, provided that nothing worse happens in it than that settings are rejected. -/
def tuningErasure : Erasure where
  drops := Event.isTuning
  admits event := event.isTolerable = true
  after_of_drops m event hdrops := by
    cases event with
    | contact contact reply => rfl
    | note note =>
      cases note with
      | log entry => rfl
      | _ => cases hdrops

theorem measurements_erase (h : History) :
    Metric.measurements (tuningErasure.erase h) = Metric.measurements h := by
  induction h with
  | nil => rfl
  | cons event h ih =>
    cases hevent : event.isTuning with
    | false =>
      have hcons : ∀ rest : History, Metric.measurements (event :: rest) =
          Metric.measurements [event] ++ Metric.measurements rest :=
        Metric.measurements_append [event]
      rw [Erasure.erase_cons_of_kept hevent, hcons (tuningErasure.erase h), hcons h, ih]
    | true =>
      rw [Erasure.erase_cons_of_dropped hevent, ih]
      cases event with
      | contact contact reply => rfl
      | note note =>
        cases note with
        | log entry => rfl
        | _ => cases hevent

namespace Store

variable {s : Store}

theorem isLocalSetting_tuningStatements (s : Store) (options : Option Tuning) :
    ∀ sql ∈ Tuning.statements options, (s.tuningStatement sql).isLocalSetting = true := by
  intro sql hsql
  obtain ⟨setting, -, rfl⟩ := List.mem_map.mp hsql
  rw [Statement.isLocalSetting, List.isPrefixOf_iff_prefix, tuningStatement, String.toList_append]
  exact List.prefix_append _ _

theorem isLocalSetting_queryStatement {request : SearchRequest} {query : Query}
    (hquery : s.schema.search s.distance request = .ok query) :
    (s.queryStatement .fetch query).isLocalSetting = false := by
  obtain ⟨⟨clause, hpieces⟩, -⟩ := Schema.search_eq_ok hquery
  obtain ⟨rest, hsql⟩ : ∃ rest, query.sql = "SELECT " ++ rest := by
    simp only [Query.sql, hpieces, Schema.searchPieces, List.cons_append, Sql.render_cons,
      Sql.Piece.text_raw]
    exact ⟨_, rfl⟩
  rw [Statement.isLocalSetting, queryStatement, hsql, String.toList_append]
  rfl

/-! ### Trying the settings -/

def rejectionWarning (s : Store) (sql : String) (fault : Fault) : Log.Entry :=
  Log.event logger .warning "Ignoring index tuning parameter"
    [tableField s.schema, ("statement", .text sql), ("error", .text fault.text)]

/-- What happens when settings are tried, each once and in order. Each is made in a savepoint of its own. If it is accepted the savepoint is completed; if it is rejected the savepoint is undone and a warning is logged. -/
inductive Attempts (s : Store) : List String → History → Prop
  | nothing : Attempts s [] []
  | accepted {sql : String} {rest : List String} {h : History} (entered answer completed : Value)
    (hrest : Attempts s rest h) :
    Attempts s (sql :: rest)
      (.contact (.enter .savepoint) (.ok entered) ::
        .contact (.statement (s.tuningStatement sql)) (.ok answer) ::
        .contact (.complete .savepoint) (.ok completed) :: h)
  | rejected {sql : String} {rest : List String} {h : History} (entered undone : Value)
    {fault : Fault} (hfault : fault.isAnswer = true) (hrest : Attempts s rest h) :
    Attempts s (sql :: rest)
      (.contact (.enter .savepoint) (.ok entered) ::
        .contact (.statement (s.tuningStatement sql)) (.error fault) ::
        .contact (.undo .savepoint) (.ok undone) ::
        .note (.log (s.rejectionWarning sql fault)) :: h)

theorem Attempts.append {sqls more : List String} {h₁ h₂ : History} (hfirst : Attempts s sqls h₁)
    (hrest : Attempts s more h₂) : Attempts s (sqls ++ more) (h₁ ++ h₂) := by
  induction hfirst with
  | nothing => exact hrest
  | accepted entered answer completed _ ih => exact .accepted entered answer completed ih
  | rejected entered undone hfault _ ih => exact .rejected entered undone hfault ih

theorem Attempts.isTuning {sqls : List String} {h : History} (hattempts : Attempts s sqls h)
    (hlocal : ∀ sql ∈ sqls, (s.tuningStatement sql).isLocalSetting = true) :
    ∀ event ∈ h, event.isTuning = true := by
  induction hattempts with
  | nothing => exact List.forall_mem_nil _
  | accepted entered answer completed _ ih =>
    obtain ⟨hfirst, hrest⟩ := List.forall_mem_cons.mp hlocal
    simpa [Event.isTuning, hfirst] using ih hrest
  | rejected entered undone hfault _ ih =>
    obtain ⟨hfirst, hrest⟩ := List.forall_mem_cons.mp hlocal
    simpa [Event.isTuning, hfirst, Log.Entry.isTuningWarning, rejectionWarning, Log.event]
      using ih hrest

/-- A setting that is rejected at worst does not keep the search from going on. -/
theorem path_tune {sql : String} {m : Memory} {h : History} {r : Except Failure Unit}
    (hlocal : (s.tuningStatement sql).isLocalSetting = true) (hpath : Path (s.tune sql) m h r)
    (hadmits : tuningErasure.Admits h) : r = .ok () ∧ Attempts s [sql] h := by
  obtain ⟨hs, hend, result, rfl, hscope, hlast⟩ := path_settle_iff.mp hpath
  obtain ⟨hinside, -⟩ := Erasure.admits_append.mp hadmits
  rcases path_inScope hscope with ⟨fault, rfl, -⟩ | ⟨entered, hw, outcome, closed, hw', rfl, rfl⟩
  · cases hinside _ List.mem_cons_self
  obtain ⟨reply, rest, rfl, hreply⟩ := path_ask_iff.mp hw'
  cases reply with
  | ok answer =>
    obtain ⟨rfl, rfl⟩ := path_done_iff.mp hreply
    cases closed with
    | error fault =>
      cases hinside (.contact (.complete .savepoint) (.error fault)) (by simp [closing])
    | ok completed =>
      obtain ⟨rfl, rfl⟩ := path_done_iff.mp hlast
      exact ⟨rfl, .accepted entered answer completed .nothing⟩
  | error fault =>
    obtain ⟨rfl, rfl⟩ := path_done_iff.mp hreply
    have hfault : fault.isAnswer = true := by
      have hevent := hinside (.contact (.statement (s.tuningStatement sql)) (.error fault))
        (by simp [tuningStatement])
      simpa [tuningErasure, Event.isTolerable, hlocal] using hevent
    cases closed with
    | error other =>
      cases hinside (.contact (.undo .savepoint) (.error other)) (by simp [closing])
    | ok undone =>
      simp only [afterReply, if_pos hfault] at hlast
      obtain ⟨rest, rfl, hrest⟩ := path_tell_iff.mp hlast
      obtain ⟨rfl, rfl⟩ := path_done_iff.mp hrest
      exact ⟨rfl, .rejected entered undone hfault .nothing⟩

theorem path_tuneAll {sqls : List String} {m : Memory} {h : History} {r : Except Failure Unit}
    (hlocal : ∀ sql ∈ sqls, (s.tuningStatement sql).isLocalSetting = true)
    (hpath : Path (s.tuneAll sqls) m h r) (hadmits : tuningErasure.Admits h) :
    r = .ok () ∧ Attempts s sqls h := by
  induction sqls generalizing m h r with
  | nil =>
    obtain ⟨rfl, rfl⟩ := path_done_iff.mp hpath
    exact ⟨rfl, .nothing⟩
  | cons sql sqls ih =>
    obtain ⟨hfirst, hrest⟩ := List.forall_mem_cons.mp hlocal
    rcases path_bind_iff.mp hpath with ⟨failure, htune, rfl⟩ | ⟨h₁, h₂, _, rfl, htune, hmore⟩
    · cases (path_tune hfirst htune hadmits).1
    · obtain ⟨hadmits₁, hadmits₂⟩ := Erasure.admits_append.mp hadmits
      obtain ⟨hr, hattempts⟩ := ih hrest hmore hadmits₂
      exact ⟨hr, (path_tune hfirst htune hadmits₁).2.append hattempts⟩

/-! ### The search without its tuning -/

theorem erase_eq_nil {h : History} (htuning : ∀ event ∈ h, event.isTuning = true) :
    tuningErasure.erase h = [] :=
  List.filter_eq_nil_iff.mpr fun event hevent => by simp [tuningErasure, htuning event hevent]

theorem erase_eq_self {h : History} (hkept : ∀ event ∈ h, event.isTuning = false) :
    tuningErasure.erase h = h :=
  List.filter_eq_self.mpr fun event hevent => by simp [tuningErasure, hkept event hevent]

theorem comesDownTo_tuneAll (s : Store) (options : Option Tuning) :
    tuningErasure.ComesDownTo (s.tuneAll (Tuning.statements options)) (pure ()) := by
  intro m h r hpath hadmits
  have hlocal := s.isLocalSetting_tuningStatements options
  obtain ⟨rfl, hattempts⟩ := path_tuneAll hlocal hpath hadmits
  rw [erase_eq_nil (hattempts.isTuning hlocal)]
  exact .done _ m

theorem comesDownTo_log {name : String} (hname : name ≠ "Ignoring index tuning parameter")
    {logger : String} {level : Log.Level} {fields : List (String × Value)} :
    tuningErasure.ComesDownTo (log (Log.event logger level name fields))
      (log (Log.event logger level name fields)) :=
  Erasure.comesDownTo_note (Event.isTuning_log hname logger level fields)

theorem comesDownTo_operation {α : Type} {p q : Program α}
    (hp : tuningErasure.ComesDownTo p q) (name : String) (attributes : Attributes) :
    tuningErasure.ComesDownTo (s.operation name attributes p) (s.operation name attributes q) := by
  refine ((hp.settle fun result => ?_).inSpan rfl fun _ => rfl).bind fun a =>
    (Erasure.comesDownTo_note rfl).bind fun _ => Erasure.comesDownTo_done _
  cases result with
  | ok a => exact Erasure.comesDownTo_done _
  | error failure =>
    cases failure with
    | fault fault =>
      dsimp only
      split
      · refine (Erasure.comesDownTo_note rfl).bind fun _ => ?_
        exact (comesDownTo_log (by simp)).bind fun _ => Erasure.comesDownTo_done _
      · exact Erasure.comesDownTo_done _
    | _ => exact Erasure.comesDownTo_done _

theorem comesDownTo_search (s : Store) (request : SearchRequest) :
    tuningErasure.ComesDownTo (s.search request) ({ s with tuning := none }.search request) := by
  apply Erasure.comesDownTo_ofExcept_bind
  intro query hquery
  have hfetch : tuningErasure.ComesDownTo (statement .fetch query.sql query.args s.timeout)
      (statement .fetch query.sql query.args s.timeout) :=
    Erasure.comesDownTo_contact fun _ => isLocalSetting_queryStatement hquery
  have hwork := (s.comesDownTo_tuneAll s.tuning).bind fun _ => hfetch
  have hscope : tuningErasure.ComesDownTo (inScope .transaction _) (inScope .transaction _) :=
    hwork.inScope (fun _ => rfl) (fun _ => rfl) fun _ => rfl
  have htransaction := hscope.withConnection (fun _ => rfl) fun _ => rfl
  refine (comesDownTo_operation htransaction "search" _).bind fun answer => ?_
  apply Erasure.comesDownTo_ofExcept_bind
  intro rows _
  apply Erasure.comesDownTo_ofExcept_bind
  intro found _
  apply Erasure.comesDownTo_ofExcept_bind
  intro kept _
  refine (Erasure.comesDownTo_note rfl).bind fun _ => ?_
  exact (comesDownTo_log (by simp)).bind fun _ => Erasure.comesDownTo_done _

/-! ### The course of a search -/

/-- The course of a search, of which the tuning admits only rejections. It does not come to a transaction; or it begins one, tries its settings, asks for its rows once and ends the transaction. Nothing else in it belongs to the tuning. -/
inductive SearchCourse (s : Store) (query : Query) : History → Prop
  | unopened {h : History} (hunopened : ∀ entered, (.enter .transaction, .ok entered) ∉ exchanges h)
    (hasked : asked h = []) (hkept : ∀ event ∈ h, event.isTuning = false) : SearchCourse s query h
  | opened {before attempts after : History} (acquired entered : Value)
    (reply closed released : Reply)
    (hbefore : exchanges before = [(.acquire, .ok acquired), (.enter .transaction, .ok entered)])
    (hattempts : Attempts s (Tuning.statements s.tuning) attempts)
    (hafter : exchanges after = [(.statement (s.queryStatement .fetch query), reply),
      (Scope.transaction.closing (replyFailure? reply), closed), (.release, released)])
    (hkept : ∀ event ∈ before ++ after, event.isTuning = false) :
    SearchCourse s query (before ++ attempts ++ after)

/-- What is noted before and after makes no difference to the course, unless it belongs to the tuning. -/
theorem SearchCourse.wrap {query : Query} {first h last : History}
    (hcourse : SearchCourse s query h) (hfirst : exchanges first = [])
    (hlast : exchanges last = []) (hkept : ∀ event ∈ first ++ last, event.isTuning = false) :
    SearchCourse s query (first ++ h ++ last) := by
  obtain ⟨hkeptFirst, hkeptLast⟩ := List.forall_mem_append.mp hkept
  cases hcourse with
  | unopened hunopened hasked hinner =>
    refine .unopened (fun entered => ?_) ?_ ?_
    · simpa [hfirst, hlast] using hunopened entered
    · simpa [asked_of_exchanges_eq_nil hfirst, asked_of_exchanges_eq_nil hlast] using hasked
    · simp only [List.forall_mem_append]
      exact ⟨⟨hkeptFirst, hinner⟩, hkeptLast⟩
  | @opened before attempts after acquired entered reply closed released hbefore hattempts hafter
      hinner =>
    obtain ⟨hkeptBefore, hkeptAfter⟩ := List.forall_mem_append.mp hinner
    have hsplit : first ++ (before ++ attempts ++ after) ++ last =
        (first ++ before) ++ attempts ++ (after ++ last) := by
      simp only [List.append_assoc]
    rw [hsplit]
    refine .opened acquired entered reply closed released (by simp [hfirst, hbefore]) hattempts
      (by simp [hlast, hafter]) ?_
    simp only [List.forall_mem_append]
    exact ⟨⟨hkeptFirst, hkeptBefore⟩, hkeptAfter, hkeptLast⟩

theorem searchCourse_inTransaction {request : SearchRequest} {query : Query}
    (hquery : s.schema.search s.distance request = .ok query) {m : Memory} {h : History}
    {r : Except Failure Value}
    (hpath : Path (inTransaction do
      s.tuneAll (Tuning.statements s.tuning)
      statement .fetch query.sql query.args s.timeout) m h r)
    (hadmits : tuningErasure.Admits h) : SearchCourse s query h := by
  have hlocal := isLocalSetting_queryStatement hquery
  have hsettings := s.isLocalSetting_tuningStatements s.tuning
  rcases path_inTransaction hpath with ⟨-, rfl, -⟩ | ⟨fault, rfl, -⟩ |
    ⟨acquired, fault, released, rfl, -⟩ |
    ⟨acquired, entered, hw, result, closed, released, hwork, rfl, -⟩
  · exact .unopened (by simp) rfl (by simp)
  · exact .unopened (by simp) rfl (by simp [Event.isTuning])
  · exact .unopened (by simp) rfl (by simp [Event.isTuning])
  · have hinner : tuningErasure.Admits hw := fun event hevent => hadmits event (by simp [hevent])
    rcases path_bind_iff.mp hwork with ⟨failure, htune, -⟩ | ⟨attempts, hf, _, rfl, htune, hfetch⟩
    · cases (path_tuneAll hsettings htune hinner).1
    obtain ⟨hadmits₁, -⟩ := Erasure.admits_append.mp hinner
    obtain ⟨-, hattempts⟩ := path_tuneAll hsettings htune hadmits₁
    obtain ⟨reply, rest, rfl, hrest⟩ := path_ask_iff.mp hfetch
    have hending : rest = [] ∧ failure? result = replyFailure? reply := by
      cases reply <;> obtain ⟨rfl, rfl⟩ := path_done_iff.mp hrest <;> exact ⟨rfl, rfl⟩
    obtain ⟨rfl, hfailure⟩ := hending
    rw [closing_eq, hfailure]
    have hcourse : SearchCourse s query ([.contact .acquire (.ok acquired),
        .contact (.enter .transaction) (.ok entered)] ++ attempts ++
        [.contact (.statement (s.queryStatement .fetch query)) reply,
          .contact (Scope.transaction.closing (replyFailure? reply)) closed,
          .contact .release released]) := by
      refine .opened acquired entered reply closed released rfl hattempts rfl ?_
      cases reply <;> simp [Event.isTuning, hlocal, Scope.closing, replyFailure?]
    simpa [queryStatement] using hcourse

theorem isTuning_of_mem_failureNotes {name : String} {failure : Failure} {event : Event}
    (hevent : event ∈ s.failureNotes name failure) : event.isTuning = false := by
  cases failure with
  | fault fault =>
    rw [failureNotes] at hevent
    split at hevent
    · simp only [List.mem_cons, List.not_mem_nil, or_false] at hevent
      rcases hevent with rfl | rfl
      · rfl
      · exact Event.isTuning_log (by simp) _ _ _
    · cases hevent
  | _ => cases hevent

theorem searchCourse_operation {query : Query} {work : Program Value} {m : Memory} {h : History}
    {r : Except Failure Value} {name : String} {attributes : Attributes}
    (hwork : ∀ hw result, Path work m hw result → tuningErasure.Admits hw → SearchCourse s query hw)
    (hpath : Path (s.operation name attributes work) m h r) (hadmits : tuningErasure.Admits h) :
    SearchCourse s query h := by
  rcases path_operation hpath with ⟨a, hw, hinner, -, rfl⟩ | ⟨failure, hw, hinner, -, rfl⟩
  · have hcourse := hwork hw _ hinner fun event hevent => hadmits event (by simp [hevent])
    rw [← List.singleton_append]
    exact hcourse.wrap rfl rfl (by simp [operationStart, Event.isTuning])
  · have hcourse := hwork hw _ hinner fun event hevent => hadmits event (by simp [hevent])
    rw [← List.singleton_append, List.append_assoc]
    refine hcourse.wrap rfl (by simp [exchanges_failureNotes]) fun event hevent => ?_
    simp only [List.mem_append, List.mem_singleton] at hevent
    rcases hevent with rfl | hnote | rfl
    · rfl
    · exact isTuning_of_mem_failureNotes hnote
    · rfl

theorem searchCourse_of_path {request : SearchRequest} {m : Memory} {h : History}
    {r : Except Failure (List Match)} (hpath : Path (s.search request) m h r)
    (hadmits : tuningErasure.Admits h) {query : Query}
    (hquery : s.schema.search s.distance request = .ok query) : SearchCourse s query h := by
  rcases path_ofExcept_bind_iff.mp hpath with ⟨_, hfailed, -, -⟩ | ⟨query', hquery', hsearch⟩
  · rw [hquery] at hfailed
    cases hfailed
  obtain rfl : query' = query := Except.ok.inj (hquery'.symm.trans hquery)
  rcases path_bind_iff.mp hsearch with ⟨_, hinner, -⟩ | ⟨ho, hlast, answer, rfl, hinner, hend⟩
  · exact searchCourse_operation (fun _ _ => searchCourse_inTransaction hquery) hinner hadmits
  have hcourse := searchCourse_operation (fun _ _ => searchCourse_inTransaction hquery) hinner
    (Erasure.admits_append.mp hadmits).1
  -- Once the rows are there, the search only counts and logs the matches, if there are any to count.
  have hquiet : exchanges hlast = [] ∧ ∀ event ∈ hlast, event.isTuning = false := by
    rcases path_ofExcept_bind_iff.mp hend with ⟨_, -, rfl, -⟩ | ⟨rows, -, hend⟩
    · exact ⟨rfl, List.forall_mem_nil _⟩
    rcases path_ofExcept_bind_iff.mp hend with ⟨_, -, rfl, -⟩ | ⟨found, -, hend⟩
    · exact ⟨rfl, List.forall_mem_nil _⟩
    rcases path_ofExcept_bind_iff.mp hend with ⟨_, -, rfl, -⟩ | ⟨kept, -, hend⟩
    · exact ⟨rfl, List.forall_mem_nil _⟩
    obtain ⟨_, rfl, hlog⟩ := path_tell_iff.mp hend
    obtain ⟨_, rfl, hdone⟩ := path_tell_iff.mp hlog
    obtain ⟨rfl, -⟩ := path_done_iff.mp hdone
    refine ⟨rfl, List.forall_mem_cons.mpr ⟨rfl, List.forall_mem_singleton.mpr ?_⟩⟩
    exact Event.isTuning_log (by simp) _ _ _
  show SearchCourse s query' ([] ++ ho ++ hlast)
  exact hcourse.wrap rfl hquiet.1 hquiet.2

end Store

/-! ### What outlasts the transaction -/

/-- The statements that a history commits, without the settings that have ended with their transactions. -/
def lasting (h : History) : List Statement :=
  (committed h).filter fun statement => !statement.isLocalSetting

namespace Ledger

/-- A ledger without settings that end with their transactions. -/
def lasting (l : Ledger) : Ledger where
  committed := l.committed.filter fun statement => !statement.isLocalSetting
  pending := l.pending.map (List.filter fun statement => !statement.isLocalSetting)

theorem lasting_add (l : Ledger) (statements : List Statement) :
    (l.add statements).lasting =
      l.lasting.add (statements.filter fun statement => !statement.isLocalSetting) := by
  obtain ⟨kept, pending⟩ := l
  cases pending <;> simp [add, lasting]

theorem lasting_drop (l : Ledger) : l.drop.lasting = l.lasting.drop := by
  simp [drop, lasting, List.map_tail]

theorem lasting_merge (l : Ledger) : l.merge.lasting = l.lasting.merge := by
  rw [merge, merge, lasting_add, lasting_drop]
  obtain ⟨kept, pending⟩ := l
  cases pending <;> rfl

/-- What lasts is known from what has lasted so far. -/
theorem lasting_after_congr {l l' : Ledger} (hsame : l.lasting = l'.lasting)
    (exchange : Contact × Reply) : (l.after exchange).lasting = (l'.after exchange).lasting := by
  obtain ⟨contact, reply⟩ := exchange
  cases contact with
  | statement s =>
    cases reply with
    | ok value => rw [after, after, lasting_add, lasting_add, hsame]
    | error fault => exact hsame
  | enter scope =>
    cases reply with
    | ok value =>
      simp only [lasting, after, Ledger.mk.injEq, List.map_cons] at hsame ⊢
      exact ⟨hsame.1, by rw [hsame.2]⟩
    | error fault => exact hsame
  | complete scope =>
    cases reply with
    | ok value => rw [after, after, lasting_merge, lasting_merge, hsame]
    | error fault => rw [after, after, lasting_drop, lasting_drop, hsame]
  | undo scope => rw [after, after, lasting_drop, lasting_drop, hsame]
  | release =>
    simp only [lasting, after, Ledger.mk.injEq] at hsame ⊢
    exact ⟨hsame.1, trivial⟩
  | _ => exact hsame

theorem lasting_foldl_congr {l l' : Ledger} (hsame : l.lasting = l'.lasting)
    (done : List (Contact × Reply)) :
    (done.foldl after l).lasting = (done.foldl after l').lasting := by
  induction done generalizing l l' with
  | nil => exact hsame
  | cons exchange done ih => exact ih (lasting_after_congr hsame exchange)

/-- A setting that is made in a savepoint does not last. -/
theorem lasting_add_localSetting (l : Ledger) {statement : Statement}
    (hlocal : statement.isLocalSetting = true) : (l.add [statement]).lasting = l.lasting := by
  obtain ⟨kept, pending⟩ := l
  cases pending <;> simp [add, lasting, hlocal]

end Ledger

namespace Store

variable {s : Store}

theorem Attempts.lasting_foldl {sqls : List String} {h : History} (hattempts : Attempts s sqls h)
    (hlocal : ∀ sql ∈ sqls, (s.tuningStatement sql).isLocalSetting = true) (l : Ledger) :
    ((exchanges h).foldl Ledger.after l).lasting = l.lasting := by
  induction hattempts generalizing l with
  | nothing => rfl
  | @accepted sql _ _ _ _ _ _ ih =>
    obtain ⟨hfirst, hrest⟩ := List.forall_mem_cons.mp hlocal
    exact (ih hrest (l.add [s.tuningStatement sql])).trans (l.lasting_add_localSetting hfirst)
  | rejected _ _ _ _ ih => exact ih (List.forall_mem_cons.mp hlocal).2 l

theorem SearchCourse.lasting_erase {query : Query} {h : History}
    (hcourse : SearchCourse s query h) : lasting (tuningErasure.erase h) = lasting h := by
  cases hcourse with
  | unopened _ _ hkept => rw [erase_eq_self hkept]
  | @opened before attempts after _ _ _ _ _ _ hattempts _ hkept =>
    have hlocal := s.isLocalSetting_tuningStatements s.tuning
    obtain ⟨hbefore, hafter⟩ := List.forall_mem_append.mp hkept
    have herased : tuningErasure.erase (before ++ attempts ++ after) = before ++ after := by
      rw [Erasure.erase_append, Erasure.erase_append, erase_eq_self hbefore, erase_eq_self hafter,
        erase_eq_nil (hattempts.isTuning hlocal), List.append_nil]
    have hledger : ((exchanges (before ++ attempts ++ after)).foldl Ledger.after .empty).lasting =
        ((exchanges (before ++ after)).foldl Ledger.after .empty).lasting := by
      simp only [exchanges_append, List.foldl_append]
      exact Ledger.lasting_foldl_congr (hattempts.lasting_foldl hlocal _) _
    rw [herased]
    exact congrArg Ledger.committed hledger.symm

theorem lasting_erase_of_path {request : SearchRequest} {m : Memory} {h : History}
    {r : Except Failure (List Match)} (hpath : Path (s.search request) m h r)
    (hadmits : tuningErasure.Admits h) : lasting (tuningErasure.erase h) = lasting h := by
  rcases path_ofExcept_bind_iff.mp hpath with ⟨_, -, rfl, -⟩ | ⟨query, hquery, -⟩
  · rfl
  · exact (searchCourse_of_path hpath hadmits hquery).lasting_erase

/-- A search of which settings are rejected tries all of them, each once and in a savepoint of its own, warns of those that are rejected, and then asks for its rows as if there had been no settings. Compared with a search that is tuned in another way, or not at all, and whose tuning admits only rejections too: if the server replies alike to all that is not tuning, then the two searches do and note the same apart from their tuning, end with the same matches or the same failure, measure the same and leave the same in the database. -/
theorem search_run_tuned {σ τ : Type} (s : Store) (request : SearchRequest) (server : Server σ)
    (state : σ) (m : Memory) :
    let run := (s.search request).run server state m
    tuningErasure.Admits run.history →
    (∀ query, s.schema.search s.distance request = .ok query → SearchCourse s query run.history) ∧
    ∀ (other : Option Tuning) (server' : Server τ) (state' : τ),
      let run' := ({ s with tuning := other }.search request).run server' state' m
      tuningErasure.Admits run'.history →
      SameReplies (tuningErasure.erase run.history) (tuningErasure.erase run'.history) →
      tuningErasure.erase run.history = tuningErasure.erase run'.history ∧
      run.result = run'.result ∧
      Metric.measurements run.history = Metric.measurements run'.history ∧
      lasting run.history = lasting run'.history := by
  intro run hadmits
  have hpath := path_run server (s.search request) state m
  refine ⟨fun query hquery => searchCourse_of_path hpath hadmits hquery, ?_⟩
  intro other server' state' run' hadmits' hsame
  have hpath' := path_run server' ({ s with tuning := other }.search request) state' m
  obtain ⟨herased, hresult⟩ := path_unique (comesDownTo_search s request _ _ _ hpath hadmits)
    (comesDownTo_search { s with tuning := other } request _ _ _ hpath' hadmits') hsame
  refine ⟨herased, hresult, ?_, ?_⟩
  · rw [← measurements_erase, herased, measurements_erase]
  · rw [← lasting_erase_of_path hpath hadmits, herased, lasting_erase_of_path hpath' hadmits']

/-- The first of two settings is rejected; the search ends as it does without them. -/
theorem search_run_tuned_scann :
    let s : Store := ⟨⟨Draft.ofTable "t", by decide⟩, .cosine,
      some (.scann ⟨1, by decide⟩ ⟨-1, by decide⟩), ⟨⟨4, by decide⟩, none, ⟨2, by decide⟩⟩⟩
    let request : SearchRequest := ⟨.list [.float 0], .int 1, .null, none, rfl, rfl⟩
    let rejection : Fault :=
      ⟨.postgres, some "unrecognized configuration parameter", none, none, by decide⟩
    let server : Server Unit := fun _ contact => match contact with
      | .statement ⟨.execute, sql, _, _⟩ =>
        (if sql = "SET LOCAL scann.num_leaves_to_search = 1" then .error rejection
          else .ok .null, ())
      | .statement _ => (.ok (.list []), ())
      | _ => (.ok .null, ())
    let run := (s.search request).run server () ⟨true, 0, true⟩
    let untuned := ({ s with tuning := none }.search request).run server () ⟨true, 0, true⟩
    let warnings := run.history.filter fun
      | .note (.log entry) => entry.isTuningWarning
      | _ => false
    tuningErasure.Admits run.history ∧ tuningErasure.Admits untuned.history ∧
      warnings.length = 1 ∧ run.result = .ok [] ∧ untuned.result = .ok [] ∧
      lasting run.history = lasting untuned.history := by
  intro s request rejection server run untuned warnings
  have htolerable : run.history.all Event.isTolerable = true := by decide +kernel
  have hadmits : tuningErasure.Admits run.history := List.all_eq_true.mp htolerable
  have htolerable' : untuned.history.all Event.isTolerable = true := by decide +kernel
  have hadmits' : tuningErasure.Admits untuned.history := List.all_eq_true.mp htolerable'
  have hsame : SameReplies (tuningErasure.erase run.history)
      (tuningErasure.erase untuned.history) := by
    intro contact reply reply' hreply hreply'
    obtain ⟨_, rfl⟩ := exists_state_of_mem_run (List.mem_of_mem_filter hreply)
    obtain ⟨_, rfl⟩ := exists_state_of_mem_run (List.mem_of_mem_filter hreply')
    rfl
  obtain ⟨-, hresult, -, hlasting⟩ :=
    (s.search_run_tuned request server () ⟨true, 0, true⟩ hadmits).2 none server () hadmits' hsame
  have huntuned : untuned.result = .ok [] := by with_unfolding_all rfl
  have hwarnings : warnings.length = 1 := by decide +kernel
  exact ⟨hadmits, hadmits', hwarnings, hresult.trans huntuned, huntuned, hlasting⟩

end Store

end VectorTable
