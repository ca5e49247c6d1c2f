import VectorTable.CommandLine.Run
import VectorTable.Proofs.Database.Inner
import VectorTable.Proofs.Log.Object
import VectorTable.Proofs.Store.Course

/-!
# What is reported

Everything that is reported while the library works falls under two heads. Commands, stores, statements and tables report events, and what stands in their fields are texts, whole numbers, truth values and lists of texts, but for the identifiers that callers give to their records. The database, the measurements and tracing report plain text, and each of their texts begins with a capital letter.

The law is proved for the ways of putting programs together and then for each program, on every path through it: whatever the server replies, and whether the program succeeds or fails.
-/

namespace VectorTable

namespace Log

/-- The loggers that report plain text: those of the database, of the measurements and of tracing. -/
def plainLoggers : List String := [Database.logger, Metric.logger, Trace.logger]

/-- What the library reports: events whose fields can stand in a JSON object, and plain text from a few loggers. -/
inductive Entry.IsReport : Entry → Prop
  | event {logger : String} {fields : List (String × Value)} (hlogger : logger ∉ plainLoggers)
    (hfields : AreReportable fields) (level : Level) (name : String) :
    IsReport (Log.event logger level name fields)
  | line {logger text : String} (hlogger : logger ∈ plainLoggers) (htext : isPlain text = true)
    (level : Level) : IsReport (Log.line logger level text)

@[simp] theorem isReportable_tableField (s : Schema) : IsReportable (tableField s).2 :=
  isReportable_text _

theorem isReport_event {logger : String} {fields : List (String × Value)} {level : Level}
    {name : String} (hfields : AreReportable fields) (hlogger : logger ∉ plainLoggers) :
    (Log.event logger level name fields).IsReport := .event hlogger hfields level name

end Log

open Log

namespace Program

variable {α β : Type} {p : Program α}

/-- Programs whose entries are all reports, whatever the server replies. -/
def OnlyReports (p : Program α) : Prop :=
  ∀ m h r, Path p m h r → ∀ entry ∈ entries h, entry.IsReport

/-! ### Programs put together -/

theorem onlyReports_done (result : Except Failure α) : OnlyReports (done result) := by
  intro m h r hpath
  rw [(path_done_iff.mp hpath).1]
  exact List.forall_mem_nil _

theorem onlyReports_ask {contact : Contact} {next : Reply → Program α}
    (hnext : ∀ reply, OnlyReports (next reply)) : OnlyReports (ask contact next) := by
  intro m h r hpath entry hentry
  obtain ⟨reply, rest, rfl, hrest⟩ := path_ask_iff.mp hpath
  exact hnext reply _ _ _ hrest entry hentry

theorem onlyReports_look {next : Memory → Program α} (hnext : ∀ m, OnlyReports (next m)) :
    OnlyReports (look next) := by
  intro m h r hpath
  exact hnext m _ _ _ (path_look_iff.mp hpath)

theorem onlyReports_tell {note : Note} {next : Program α}
    (hnote : ∀ entry, note = .log entry → entry.IsReport) (hnext : OnlyReports next) :
    OnlyReports (tell note next) := by
  intro m h r hpath entry hentry
  obtain ⟨rest, rfl, hrest⟩ := path_tell_iff.mp hpath
  rcases List.mem_cons.mp (mem_entries_iff.mp hentry) with heq | hmem
  · cases heq
    exact hnote entry rfl
  · exact hnext _ _ _ hrest entry (mem_entries_iff.mpr hmem)

theorem onlyReports_note (note : Note) (hnote : ∀ entry, note = .log entry → entry.IsReport) :
    OnlyReports (Program.note note) := onlyReports_tell hnote (onlyReports_done _)

theorem onlyReports_log {entry : Entry} (hentry : entry.IsReport) : OnlyReports (log entry) := by
  refine onlyReports_note (.log entry) ?_
  rintro _ ⟨⟩
  exact hentry

/-- What follows need only report for the results that the first program can have. -/
theorem OnlyReports.settle {k : Except Failure α → Program β} (hp : OnlyReports p)
    (hk : ∀ m h result, Path p m h result → OnlyReports (k result)) : OnlyReports (p.settle k) := by
  intro m h r hpath entry hentry
  obtain ⟨h₁, h₂, result, rfl, hfirst, hrest⟩ := path_settle_iff.mp hpath
  rw [entries_append, List.mem_append] at hentry
  rcases hentry with hentry | hentry
  · exact hp _ _ _ hfirst entry hentry
  · exact hk _ _ _ hfirst _ _ _ hrest entry hentry

theorem OnlyReports.bind_path {f : α → Program β} (hp : OnlyReports p)
    (hf : ∀ m h a, Path p m h (.ok a) → OnlyReports (f a)) : OnlyReports (p >>= f) := by
  refine hp.settle fun m h result hpath => ?_
  cases result with
  | ok a => exact hf m h a hpath
  | error failure => exact onlyReports_done _

theorem OnlyReports.bind {f : α → Program β} (hp : OnlyReports p) (hf : ∀ a, OnlyReports (f a)) :
    OnlyReports (p >>= f) := hp.bind_path fun _ _ a _ => hf a

theorem onlyReports_ofExcept_bind {x : Except Failure α} {f : α → Program β}
    (hf : ∀ a, x = .ok a → OnlyReports (f a)) : OnlyReports (ofExcept x >>= f) :=
  (onlyReports_done x).bind_path fun _ _ a hpath => hf a (path_done_iff.mp hpath).2.symm

theorem onlyReports_contact (c : Contact) : OnlyReports (contact c) := by
  refine onlyReports_ask fun reply => ?_
  cases reply <;> exact onlyReports_done _

theorem onlyReports_measure (m : Metric.Measurement) : OnlyReports (measure m) :=
  onlyReports_note _ nofun

theorem OnlyReports.closedBy (hp : OnlyReports p) (c : Contact) : OnlyReports (p.closedBy c) := by
  refine hp.settle fun _ _ result _ => onlyReports_ask fun reply => ?_
  cases reply <;> exact onlyReports_done _

theorem OnlyReports.inScope (hp : OnlyReports p) (scope : Scope) : OnlyReports (inScope scope p) := by
  refine (onlyReports_contact _).bind fun _ => hp.settle fun _ _ result _ => ?_
  cases result with
  | ok a => exact (onlyReports_contact _).bind fun _ => onlyReports_done _
  | error failure => exact (onlyReports_done _).closedBy _

theorem OnlyReports.withConnection (hp : OnlyReports p) : OnlyReports (withConnection p) := by
  refine onlyReports_look fun m => ?_
  split
  · exact (onlyReports_contact _).bind fun _ => hp.closedBy _
  · exact onlyReports_done _

theorem OnlyReports.inTransaction (hp : OnlyReports p) : OnlyReports (inTransaction p) :=
  (hp.inScope .transaction).withConnection

theorem OnlyReports.accountFor (hp : OnlyReports p) (table operation : String) :
    OnlyReports (accountFor table operation p) := by
  refine hp.settle fun _ _ result _ => ?_
  split
  · split <;> exact onlyReports_done _
  · exact onlyReports_done _

theorem OnlyReports.inSpan (hp : OnlyReports p) (name : String) (attributes : Attributes) :
    OnlyReports (inSpan name attributes p) := by
  refine onlyReports_tell nofun (hp.settle fun _ _ result _ => ?_)
  cases result <;> exact onlyReports_tell nofun (onlyReports_done _)

end Program

open Program

/-! ### Plain text -/

namespace Database

theorem onlyReports_line {text : String} (htext : isPlain text = true) (level : Level) :
    OnlyReports (log (Log.line Database.logger level text)) :=
  onlyReports_log (.line (by decide) htext level)

theorem onlyReports_connect (options : PoolOptions) : OnlyReports (connect options) := by
  refine onlyReports_ask fun reply => ?_
  cases reply with
  | ok value =>
    refine (onlyReports_note .poolOpened nofun).bind fun _ => onlyReports_line ?_ .info
    iterate 4 apply isPlain_append
    decide
  | error fault =>
    dsimp only
    split
    · exact onlyReports_done _
    · exact (onlyReports_line (isPlain_append (by decide) _) .error).bind fun _ => onlyReports_done _

theorem onlyReports_close : OnlyReports close := by
  refine onlyReports_look fun m => ?_
  split
  · exact (onlyReports_note .poolDropped nofun).bind fun _ => (onlyReports_contact _).bind fun _ =>
      onlyReports_line (by decide) .info
  · exact onlyReports_done _

theorem onlyReports_query (kind : StatementKind) (sql : String) (args : List Value) :
    OnlyReports (run kind sql args) := (onlyReports_contact _).withConnection

theorem onlyReports_healthCheck : OnlyReports healthCheck := by
  refine (onlyReports_query _ _ _).settle fun _ _ result _ => ?_
  cases result with
  | ok answer => exact onlyReports_done _
  | error failure =>
    dsimp only
    split
    · exact (onlyReports_line (isPlain_append (by decide) _) .warning).bind fun _ => onlyReports_done _
    · exact onlyReports_done _

theorem onlyReports_during {α : Type} {work : Program α} (hwork : OnlyReports work)
    (options : PoolOptions) : OnlyReports (during options work) :=
  (onlyReports_connect options).bind fun _ => hwork.settle fun _ _ _ _ =>
    onlyReports_close.bind fun _ => onlyReports_done _

end Database

theorem Program.onlyReports_collectMetrics : OnlyReports collectMetrics := by
  refine onlyReports_look fun m => ?_
  split
  · exact onlyReports_done _
  · exact (onlyReports_note .collectorMade nofun).bind fun _ =>
      onlyReports_log (.line (by decide) (by decide) .info)

theorem Program.onlyReports_serveMetrics (settings : Except Failure Setting.General) (port : Value) :
    OnlyReports (serveMetrics settings port) := by
  refine onlyReports_ofExcept_bind fun settings _ => OnlyReports.bind ?_ fun _ => onlyReports_done _
  exact onlyReports_log (.line (by decide) (isPlain_append (by decide) _) .info)

theorem Trace.onlyReports_install (setup : Setup) : OnlyReports setup.install := by
  refine onlyReports_log (.line (by decide) ?_ .info)
  iterate 3 apply isPlain_append
  decide

/-! ### Tables -/

namespace TableSetup

theorem onlyReports_executeAll (sqls : List String) : OnlyReports (executeAll sqls) := by
  induction sqls with
  | nil => exact onlyReports_done _
  | cons sql sqls ih => exact (onlyReports_contact _).bind fun _ => ih

/-- The size is a whole number, since the statement has been built from it. -/
theorem onlyReports_create (s : Schema) (size : Value) (overwrite storeMetadata : Bool) :
    OnlyReports (create s size overwrite storeMetadata) := by
  refine onlyReports_ofExcept_bind fun pieces hpieces => ?_
  have hsize : IsReportable size := by
    obtain ⟨count, hcount, -⟩ := bind_eq_ok_iff.mp hpieces
    unfold vectorSize? at hcount
    split at hcount
    · exact isReportable_int _
    · cases hcount
  exact ((onlyReports_executeAll _).inTransaction.accountFor _ _).bind fun _ =>
    onlyReports_log (isReport_event (by simp [hsize]) (by decide))

end TableSetup

/-! ### Statements -/

namespace Schema

variable (s : Schema)

/-- The identifier of a record is the one value that the library does not choose itself. -/
theorem onlyReports_noteDropped {r : Record} (hid : IsReportable r.id) : OnlyReports (s.noteDropped r) := by
  rw [noteDropped]
  split
  · exact onlyReports_done _
  · exact onlyReports_log (isReport_event (by simp [hid]) (by decide))

theorem onlyReports_rowsNoted {records : List Record} (hids : ∀ r ∈ records, IsReportable r.id) :
    OnlyReports (s.rowsNoted records) := by
  induction records with
  | nil => exact onlyReports_done _
  | cons record records ih =>
    obtain ⟨hid, hids⟩ := List.forall_mem_cons.mp hids
    exact onlyReports_ofExcept_bind fun row _ => (s.onlyReports_noteDropped hid).bind fun _ =>
      (ih hids).bind fun _ => onlyReports_done _

end Schema

/-! ### Stores -/

theorem isReportable_of_mem_issuedIds {β : Type} {issued : Nat} {items : List β} {id : Value}
    (hid : id ∈ issuedIds issued items) : IsReportable id := by
  induction items generalizing issued with
  | nil => cases hid
  | cons item items ih =>
    rcases List.mem_cons.mp hid with rfl | hrest
    · exact isReportable_text _
    · exact ih hrest

theorem Program.onlyReports_freshId : OnlyReports freshId :=
  onlyReports_look fun _ => onlyReports_tell nofun (onlyReports_done _)

theorem Program.onlyReports_freshIds {β : Type} (items : List β) : OnlyReports (freshIds items) := by
  induction items with
  | nil => exact onlyReports_done _
  | cons item items ih => exact onlyReports_freshId.bind fun _ => ih.bind fun _ => onlyReports_done _

namespace Store

variable {α : Type} (s : Store)

theorem onlyReports_event {level : Level} {name : String} {fields : List (String × Value)}
    (hfields : AreReportable fields) :
    OnlyReports (log (Log.event Store.logger level name (tableField s.schema :: fields))) :=
  onlyReports_log (isReport_event (by simp [hfields]) (by decide))

theorem onlyReports_reportFault (operation : String) (fault : Fault) :
    OnlyReports (s.reportFault operation fault : Program α) :=
  (onlyReports_measure _).bind fun _ => (s.onlyReports_event (by simp)).bind fun _ => onlyReports_done _

theorem onlyReports_operation {work : Program α} (hwork : OnlyReports work) (name : String)
    (attributes : Attributes) : OnlyReports (s.operation name attributes work) := by
  refine ((hwork.settle fun _ _ result _ => ?_).inSpan _ _).bind fun a =>
    (onlyReports_measure _).bind fun _ => onlyReports_done _
  split
  · split
    · exact s.onlyReports_reportFault _ _
    · exact onlyReports_done _
  · exact onlyReports_done _

/-! ### Reading -/

theorem onlyReports_tune (sql : String) : OnlyReports (s.tune sql) := by
  refine ((onlyReports_contact _).inScope .savepoint).settle fun _ _ result _ => ?_
  split
  · exact onlyReports_done _
  · split
    · exact s.onlyReports_event (by simp)
    · exact onlyReports_done _
  · exact onlyReports_done _

theorem onlyReports_tuneAll (sqls : List String) : OnlyReports (s.tuneAll sqls) := by
  induction sqls with
  | nil => exact onlyReports_done _
  | cons sql sqls ih => exact (s.onlyReports_tune sql).bind fun _ => ih

theorem onlyReports_search (request : SearchRequest) : OnlyReports (s.search request) := by
  have hwork (query : Query) : OnlyReports (Program.inTransaction do
      s.tuneAll (Tuning.statements s.tuning)
      Program.statement .fetch query.sql query.args s.timeout) :=
    ((s.onlyReports_tuneAll _).bind fun _ => onlyReports_contact _).inTransaction
  exact onlyReports_ofExcept_bind fun query _ => (s.onlyReports_operation (hwork query) _ _).bind
    fun answer => onlyReports_ofExcept_bind fun rows _ => onlyReports_ofExcept_bind fun found _ =>
    onlyReports_ofExcept_bind fun kept _ => (onlyReports_measure _).bind fun _ =>
    (s.onlyReports_event (by simp)).bind fun _ => onlyReports_done _

theorem onlyReports_findRelevant (embedding limit minScore : Value) (filter : Option Filter) :
    OnlyReports (s.findRelevant embedding limit minScore filter) :=
  onlyReports_ofExcept_bind fun request _ => s.onlyReports_search request

theorem onlyReports_getByIds (ids : Value) : OnlyReports (s.getByIds ids) := by
  rw [getByIds]
  split
  · exact onlyReports_done _
  · exact onlyReports_ofExcept_bind fun query _ => onlyReports_ofExcept_bind fun count _ =>
      (s.onlyReports_operation (onlyReports_contact _).withConnection _ _).bind fun answer =>
        onlyReports_ofExcept_bind fun rows _ => onlyReports_done _

/-! ### Writing -/

theorem onlyReports_sendChunks (sql : String) (timeout : Option (Option Float))
    (chunks : List (List (List Value))) : OnlyReports (sendChunks sql timeout chunks) := by
  induction chunks with
  | nil => exact onlyReports_done _
  | cons chunk chunks ih => exact (onlyReports_contact _).bind fun _ => ih

theorem onlyReports_insertRecords {records : List Record} (hids : ∀ r ∈ records, IsReportable r.id) :
    OnlyReports (s.insertRecords records) :=
  (s.schema.onlyReports_rowsNoted hids).bind fun rows =>
    (s.onlyReports_operation (onlyReports_sendChunks _ _ _).inTransaction _ _).bind fun _ =>
    (onlyReports_measure _).bind fun _ => s.onlyReports_event (by simp)

/-- Identifiers that are given to an insertion, all of which can stand in a JSON object. -/
def Insertion.HasReportableIds (insertion : Insertion) : Prop :=
  ∀ ids ∈ insertion.ids, ∀ id ∈ ids, IsReportable id

theorem Insertion.onlyReports_chooseIds (insertion : Insertion) : OnlyReports insertion.chooseIds := by
  rw [chooseIds]
  split
  · exact onlyReports_done _
  · exact onlyReports_freshIds _

theorem Insertion.HasReportableIds.of_path {insertion : Insertion}
    (hids : insertion.HasReportableIds) {m : Memory} {h : History} {ids : List Value}
    (hpath : Path insertion.chooseIds m h (.ok ids)) : ∀ id ∈ ids, IsReportable id := by
  have heq := (insertion.path_chooseIds_issued hpath).2
  cases heq
  cases hgiven : insertion.ids with
  | some given => exact hids given hgiven
  | none => exact fun id => isReportable_of_mem_issuedIds

theorem onlyReports_addAll {insertion : Insertion} (hids : insertion.HasReportableIds) :
    OnlyReports (s.addAll insertion) := by
  rw [addAll_eq]
  refine insertion.onlyReports_chooseIds.bind_path fun m h ids hpath => ?_
  split
  case isTrue hlengths =>
    split
    · exact onlyReports_done _
    · refine onlyReports_ofExcept_bind fun records hrecords =>
        (s.onlyReports_insertRecords fun r hr => ?_).bind fun _ => onlyReports_done _
      -- The records bear the identifiers that were chosen, given or issued.
      have hsame : records.map Record.id = ids := by
        obtain ⟨hcount, htexts, hmetadata⟩ := hlengths
        exact map_id_records htexts.symm (htexts.trans hmetadata).symm hcount hrecords
      exact hids.of_path hpath r.id (hsame ▸ List.mem_map_of_mem hr)
  case isFalse => exact onlyReports_done _

theorem onlyReports_add (embedding : Value) (text : Option String) (metadata : List (String × Value))
    {id : Value} (hid : IsReportable id) : OnlyReports (s.add embedding text metadata id) := by
  rw [add_eq]
  have hchoice : OnlyReports (chooseId id) := by
    rw [chooseId]
    split
    · exact onlyReports_done _
    · exact onlyReports_freshId.bind fun _ => onlyReports_done _
  refine hchoice.bind_path fun m h chosen hpath => OnlyReports.bind ?_ fun _ => onlyReports_done _
  have hchosen : IsReportable chosen := by
    have heq := (path_chooseId hpath).2
    cases heq
    rw [idOrIssued]
    split
    · exact hid
    · exact isReportable_text _
  refine s.onlyReports_addAll ?_
  rintro ids ⟨⟩
  exact List.forall_mem_singleton.mpr hchosen

theorem onlyReports_removeAll (ids : Value) : OnlyReports (s.removeAll ids) :=
  onlyReports_ofExcept_bind fun query _ => onlyReports_ofExcept_bind fun count _ =>
    (s.onlyReports_operation (onlyReports_contact _).inTransaction _ _).bind fun status =>
    (onlyReports_ofExcept_bind fun _ _ => onlyReports_measure _).bind fun _ =>
    (s.onlyReports_event (by simp)).bind fun _ => onlyReports_done _

/-! ### Indexes -/

theorem onlyReports_warnDistance (index : IndexDefinition) : OnlyReports (s.warnDistance index) := by
  rw [warnDistance]
  split
  · exact onlyReports_done _
  · exact onlyReports_log (isReport_event (by simp) (by decide))

theorem onlyReports_applyIndex (index : IndexDefinition) (name : Option String) (concurrently : Bool) :
    OnlyReports (s.applyIndex index name concurrently) := by
  refine (s.onlyReports_warnDistance index).bind fun _ =>
    (s.onlyReports_operation (OnlyReports.withConnection ?_) _ _).bind fun _ =>
    (s.onlyReports_event (by simp)).bind fun _ => onlyReports_done _
  split
  · exact (onlyReports_contact _).bind fun _ => onlyReports_contact _
  · exact onlyReports_contact _

theorem onlyReports_dropIndex (name : Option String) : OnlyReports (s.dropIndex name) :=
  (s.onlyReports_operation (onlyReports_contact _).withConnection _ _).bind fun _ =>
    s.onlyReports_event (by simp)

theorem onlyReports_reindex (name : Option String) : OnlyReports (s.reindex name) :=
  (s.onlyReports_operation (onlyReports_contact _).withConnection _ _).bind fun _ => onlyReports_done _

/-! ### Making a store -/

theorem onlyReports_make (schema : Schema) (distance : Distance) (tuning : Option Tuning)
    (settings : Except Failure Setting.Store) : OnlyReports (make schema distance tuning settings) :=
  onlyReports_ofExcept_bind fun _ _ => onlyReports_collectMetrics.bind fun _ => onlyReports_done _

theorem onlyReports_create (schema : Schema) (ignored : Option (List String)) (distance : Distance)
    (tuning : Option Tuning) (settings : Except Failure Setting.Store) :
    OnlyReports (create schema ignored distance tuning settings) := by
  rw [create]
  split
  · exact onlyReports_done _
  · exact ((Database.onlyReports_query _ _ _).accountFor _ _).bind fun answer =>
      onlyReports_ofExcept_bind fun resolved _ =>
      (onlyReports_log (isReport_event (by simp) (by decide))).bind fun _ => onlyReports_make _ _ _ _

end Store

/-! ### Commands -/

namespace Program

theorem onlyReports_echo (text : String) : OnlyReports (echo text) := onlyReports_note _ nofun

theorem onlyReports_echoAll (texts : List String) : OnlyReports (echoAll texts) := by
  induction texts with
  | nil => exact onlyReports_done _
  | cons text texts ih => exact (onlyReports_echo text).bind fun _ => ih

end Program

namespace CommandLine

theorem onlyReports_reporting {work : Program Unit} (hwork : OnlyReports work) (words : String) :
    OnlyReports (reporting words work) := by
  refine hwork.settle fun _ _ result _ => ?_
  cases result with
  | ok _ => exact onlyReports_done _
  | error failure =>
    dsimp only
    split
    · exact (onlyReports_echo _).bind fun _ => onlyReports_done _
    · exact onlyReports_done _

theorem onlyReports_onStore (e : Environment) (words : String) (table : Draft) (distance : Distance)
    {work : Store → Program Unit} (hwork : ∀ store, OnlyReports (work store)) :
    OnlyReports (onStore e words table distance work) := by
  refine Database.onlyReports_during (onlyReports_reporting ?_ words) _
  exact onlyReports_ofExcept_bind fun schema _ =>
    (Store.onlyReports_create _ _ _ _ _).bind fun store => hwork store

theorem onlyReports_checks : OnlyReports checks := by
  refine Database.onlyReports_healthCheck.bind fun answers => ?_
  split
  · exact (Database.onlyReports_query _ _ _).bind fun _ => onlyReports_done _
  · exact onlyReports_done _

theorem onlyReports_examine (pool : PoolOptions) : OnlyReports (examine pool) := by
  have hguarded := (Database.onlyReports_connect pool).bind fun _ => onlyReports_checks
  refine (hguarded.settle fun _ _ result _ => ?_).settle fun _ _ _ _ =>
    Database.onlyReports_close.bind fun _ => onlyReports_done _
  split
  · split
    · exact (onlyReports_log (isReport_event (by simp) (by decide))).bind fun _ => onlyReports_done _
    · exact onlyReports_done _
  · exact onlyReports_done _

theorem onlyReports_health (pool : PoolOptions) : OnlyReports (health pool) := by
  refine (onlyReports_examine pool).bind fun results => (onlyReports_echoAll _).bind fun _ => ?_
  split <;> exact (onlyReports_echo _).bind fun _ => onlyReports_done _

theorem Command.onlyReports_command (e : Environment) (command : Command) : OnlyReports (command.run e) := by
  cases command with
  | initTable schema size overwrite storeMetadata =>
    refine Database.onlyReports_during (onlyReports_reporting ?_ _) _
    exact (TableSetup.onlyReports_create _ _ _ _).bind fun _ => onlyReports_echo _
  | createIndex table methodWord index name concurrently =>
    exact onlyReports_onStore e _ table _ fun store =>
      (store.onlyReports_applyIndex _ _ _).bind fun _ => onlyReports_echo _
  | dropIndex table name =>
    exact onlyReports_onStore e _ table _ fun store =>
      (store.onlyReports_dropIndex _).bind fun _ => onlyReports_echo _
  | remove table ids =>
    exact onlyReports_onStore e _ table _ fun store =>
      (store.onlyReports_removeAll _).bind fun _ => onlyReports_echo _
  | health => exact onlyReports_health e.pool

theorem Halt.onlyReports_halt (halt : Halt) : OnlyReports halt.run :=
  (onlyReports_echoAll _).bind fun _ => onlyReports_done _

/-- A command line reports when it sets up tracing and when it runs its command. One that cannot be run reports nothing. -/
theorem Plan.onlyReports_program (sources : Setting.Sources) (line : List String) :
    OnlyReports (make sources line).program := by
  rw [make]
  split
  · exact Halt.onlyReports_halt _
  · split
    case h_1 plan hplan =>
      obtain ⟨settings, -, hplan⟩ := bind_eq_ok_iff.mp hplan
      obtain ⟨log, -, hplan⟩ := bind_eq_ok_iff.mp hplan
      cases hplan
      have hinstall : OnlyReports ((tracingOf settings).forM Trace.Setup.install) := by
        cases tracingOf settings with
        | none => exact onlyReports_done _
        | some setup => exact Trace.onlyReports_install setup
      refine hinstall.bind fun _ => ?_
      split
      · exact Command.onlyReports_command _ _
      · exact Halt.onlyReports_halt _
    case h_2 => exact onlyReports_done _

end CommandLine

end VectorTable
