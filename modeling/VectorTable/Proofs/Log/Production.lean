import VectorTable.Proofs.Log.Reports

/-!
# The log in production

In production the log is made for readers that take one JSON object from each line. Whatever callers do with the library, events are such objects: each is printed without fault, on one line of its own, and messages of several lines make no difference. But the database, the measurements and tracing do not report events. What they say is printed as it is, and each of their texts puts a line into the log that is no object. So the log consists of objects exactly if nothing is printed for these three.
-/

namespace VectorTable

open Program Log Json

/-! ### Callers -/

/-- Programs of callers. They call the library in any order, and what comes next may depend on how the calls before have ended. Identifiers that they give to records are texts, or other values that can stand in a JSON object. -/
inductive CallsLibrary : {α : Type} → Program α → Prop
  | done {α : Type} (result : Except Failure α) : CallsLibrary (done result)
  | settle {α β : Type} {p : Program α} {k : Except Failure α → Program β} (hp : CallsLibrary p)
    (hk : ∀ m h result, Path p m h result → CallsLibrary (k result)) : CallsLibrary (p.settle k)
  | connect (options : PoolOptions) : CallsLibrary (Database.connect options)
  | close : CallsLibrary Database.close
  | isConnected : CallsLibrary Database.isConnected
  | pool : CallsLibrary Database.pool
  | run (kind : StatementKind) (sql : String) (args : List Value) :
    CallsLibrary (Database.run kind sql args)
  | healthCheck : CallsLibrary Database.healthCheck
  | setUpTable (schema : Schema) (size : Value) (overwrite storeMetadata : Bool) :
    CallsLibrary (TableSetup.create schema size overwrite storeMetadata)
  | make (schema : Schema) (distance : Distance) (tuning : Option Tuning)
    (settings : Except Failure Setting.Store) :
    CallsLibrary (Store.make schema distance tuning settings)
  | create (schema : Schema) (ignored : Option (List String)) (distance : Distance)
    (tuning : Option Tuning) (settings : Except Failure Setting.Store) :
    CallsLibrary (Store.create schema ignored distance tuning settings)
  | add (store : Store) (embedding : Value) (text : Option String)
    (metadata : List (String × Value)) {id : Value} (hid : IsReportable id) :
    CallsLibrary (store.add embedding text metadata id)
  | addAll (store : Store) {insertion : Store.Insertion} (hids : insertion.HasReportableIds) :
    CallsLibrary (store.addAll insertion)
  | search (store : Store) (request : SearchRequest) : CallsLibrary (store.search request)
  | findRelevant (store : Store) (embedding limit minScore : Value) (filter : Option Filter) :
    CallsLibrary (store.findRelevant embedding limit minScore filter)
  | getByIds (store : Store) (ids : Value) : CallsLibrary (store.getByIds ids)
  | remove (store : Store) (id : Value) : CallsLibrary (store.remove id)
  | removeAll (store : Store) (ids : Value) : CallsLibrary (store.removeAll ids)
  | applyIndex (store : Store) (index : IndexDefinition) (name : Option String)
    (concurrently : Bool) : CallsLibrary (store.applyIndex index name concurrently)
  | dropIndex (store : Store) (name : Option String) : CallsLibrary (store.dropIndex name)
  | reindex (store : Store) (name : Option String) : CallsLibrary (store.reindex name)
  | collectMetrics : CallsLibrary collectMetrics
  | serveMetrics (settings : Except Failure Setting.General) (port : Value) :
    CallsLibrary (serveMetrics settings port)
  | installTracing (setup : Trace.Setup) : CallsLibrary setup.install
  | commandLine (sources : Setting.Sources) (line : List String) :
    CallsLibrary (CommandLine.Plan.make sources line).program

theorem CallsLibrary.bind {α β : Type} {p : Program α} {f : α → Program β} (hp : CallsLibrary p)
    (hf : ∀ m h a, Path p m h (.ok a) → CallsLibrary (f a)) : CallsLibrary (p >>= f) := by
  refine hp.settle fun m h result hpath => ?_
  cases result with
  | ok a => exact hf m h a hpath
  | error failure => exact .done _

theorem CallsLibrary.onlyReports {α : Type} {p : Program α} (hp : CallsLibrary p) : OnlyReports p := by
  induction hp with
  | done result => exact onlyReports_done result
  | settle _ _ ihp ihk => exact ihp.settle ihk
  | connect options => exact Database.onlyReports_connect options
  | close => exact Database.onlyReports_close
  | isConnected => exact onlyReports_look fun _ => onlyReports_done _
  | pool =>
    refine onlyReports_look fun m => ?_
    split <;> exact onlyReports_done _
  | run kind sql args => exact Database.onlyReports_query kind sql args
  | healthCheck => exact Database.onlyReports_healthCheck
  | setUpTable schema size overwrite storeMetadata => exact TableSetup.onlyReports_create _ _ _ _
  | make schema distance tuning settings => exact Store.onlyReports_make _ _ _ _
  | create schema ignored distance tuning settings => exact Store.onlyReports_create _ _ _ _ _
  | add store embedding text metadata hid => exact store.onlyReports_add embedding text metadata hid
  | addAll store hids => exact store.onlyReports_addAll hids
  | search store request => exact store.onlyReports_search request
  | findRelevant store embedding limit minScore filter => exact store.onlyReports_findRelevant _ _ _ _
  | getByIds store ids => exact store.onlyReports_getByIds ids
  | remove store id => exact store.onlyReports_removeAll _
  | removeAll store ids => exact store.onlyReports_removeAll ids
  | applyIndex store index name concurrently => exact store.onlyReports_applyIndex _ _ _
  | dropIndex store name => exact store.onlyReports_dropIndex name
  | reindex store name => exact store.onlyReports_reindex name
  | collectMetrics => exact onlyReports_collectMetrics
  | serveMetrics settings port => exact onlyReports_serveMetrics settings port
  | installTracing setup => exact Trace.onlyReports_install setup
  | commandLine sources line => exact CommandLine.Plan.onlyReports_program sources line

/-! ### Objects and plain text -/

namespace Log

/-- A log whose lines are objects as far as they come from events. An event is printed without fault, as one line; plain text has a line that is no object; every line is one or the other; and all are objects exactly if no plain text is printed. -/
structure Setup.KeepsObjects (setup : Setup) (context : Context) (tracing : Bool) (h : History) :
    Prop where
  event : ∀ entry ∈ entries h, entry.logger ∉ plainLoggers →
    setup.fault? context entry = none ∧
      ∀ traced, ∃ line, setup.render context traced entry = [line] ∧ IsObjectLine line.write
  plain : ∀ entry ∈ entries h, entry.logger ∈ plainLoggers →
    ∃ text, entry.content = .line text ∧
      ∃ line ∈ (splitLines text).map Line.text, ¬IsObjectLine line.write
  line : ∀ line ∈ setup.logged context tracing h, IsObjectLine line.write ∨
    ∃ entry ∈ entries h, entry.logger ∈ plainLoggers ∧
      ∃ text, entry.content = .line text ∧ line ∈ (splitLines text).map Line.text
  all_iff : (∀ line ∈ setup.logged context tracing h, IsObjectLine line.write) ↔
    ∀ entry ∈ entries h, setup.prints entry = true → entry.logger ∉ plainLoggers

section Entries

variable {setup : Setup} {context : Context} {entry : Entry}

theorem Entry.IsReport.exists_render_eq (hentry : entry.IsReport)
    (hproduction : setup.production = true) (hcontext : AreReportable context)
    (hlogger : entry.logger ∉ plainLoggers) (traced : Bool) :
    setup.fault? context entry = none ∧
      ∃ line, setup.render context traced entry = [line] ∧ IsObjectLine line.write := by
  cases hentry with
  | event _ hfields level name => exact Log.exists_render_eq hproduction hcontext rfl hfields traced
  | line hplain => exact absurd hplain hlogger

theorem Entry.IsReport.exists_line (hentry : entry.IsReport)
    (hlogger : entry.logger ∈ plainLoggers) :
    ∃ text, entry.content = .line text ∧ isPlain text = true := by
  cases hentry with
  | event hplain => exact absurd hlogger hplain
  | line _ htext level => exact ⟨_, rfl, htext⟩

/-- Plain text is printed as it is, in production as elsewhere. -/
theorem render_eq_of_line {text : String} (hentry : entry.content = .line text) (traced : Bool) :
    setup.render context traced entry = (splitLines text).map Line.text := by
  rw [Setup.render, hentry]

theorem keepsObjects_of_isReport {h : History} (hreports : ∀ entry ∈ entries h, entry.IsReport)
    (hproduction : setup.production = true) (hcontext : AreReportable context) (tracing : Bool) :
    setup.KeepsObjects context tracing h where
  event entry hentry hlogger := by
    have hrender := (hreports entry hentry).exists_render_eq hproduction hcontext hlogger
    exact ⟨(hrender false).1, fun traced => (hrender traced).2⟩
  plain entry hentry hlogger := by
    obtain ⟨text, hcontent, htext⟩ := (hreports entry hentry).exists_line hlogger
    exact ⟨text, hcontent, exists_not_isObjectLine htext⟩
  line line hline := by
    obtain ⟨entry, hentry, traced, hline⟩ := exists_entry_of_mem_logged hline
    have hrender := (mem_lines_iff.mp hline).2
    by_cases hlogger : entry.logger ∈ plainLoggers
    · obtain ⟨text, hcontent, -⟩ := (hreports entry hentry).exists_line hlogger
      rw [render_eq_of_line hcontent] at hrender
      exact .inr ⟨entry, hentry, hlogger, text, hcontent, hrender⟩
    · obtain ⟨-, object, heq, hobject⟩ :=
        (hreports entry hentry).exists_render_eq hproduction hcontext hlogger traced
      rw [heq] at hrender
      exact .inl (List.mem_singleton.mp hrender ▸ hobject)
  all_iff := by
    constructor
    · intro hobjects entry hentry hprints hlogger
      obtain ⟨text, hcontent, htext⟩ := (hreports entry hentry).exists_line hlogger
      obtain ⟨line, hline, hplain⟩ := exists_not_isObjectLine htext
      -- Plain text bears no mark of a span, so it is the same line in any case.
      obtain ⟨traced, hsubset⟩ :
          ∃ traced, setup.lines context traced entry ⊆ setup.logged context tracing h :=
        exists_lines_subset_logged hentry
      refine hplain (hobjects line (hsubset (mem_lines_iff.mpr ⟨hprints, ?_⟩)))
      rwa [render_eq_of_line hcontent]
    · intro hevents line hline
      obtain ⟨entry, hentry, traced, hline⟩ := exists_entry_of_mem_logged hline
      obtain ⟨hprints, hrender⟩ := mem_lines_iff.mp hline
      obtain ⟨-, object, heq, hobject⟩ := (hreports entry hentry).exists_render_eq hproduction
        hcontext (hevents entry hentry hprints) traced
      rw [heq] at hrender
      exact List.mem_singleton.mp hrender ▸ hobject

end Entries

/-! ### Runs -/

/-- The log of callers in production, whatever they call with whatever names, values and settings, and whatever the server replies. -/
theorem keepsObjects_run {α σ : Type} {p : Program α} (hp : CallsLibrary p) {setup : Setup}
    (hproduction : setup.production = true) {context : Context} (hcontext : AreReportable context)
    (tracing : Bool) (server : Server σ) (state : σ) (m : Memory) :
    setup.KeepsObjects context tracing (p.run server state m).history :=
  keepsObjects_of_isReport (hp.onlyReports _ _ _ (path_run server p state m)) hproduction hcontext
    tracing

/-- The server tells in several lines why it refuses a statement, and the line that reports it is one object. The database has said in plain text that it is connected, but that is not printed if only warnings are. -/
theorem keepsObjects_run_refused :
    let options : PoolOptions := ⟨"postgresql://localhost/vectors", .int 1, .int 10, .int 60⟩
    let s : Store := ⟨⟨Draft.ofTable "documents", by decide⟩, .cosine, none,
      ⟨⟨4, by decide⟩, some ⟨60, by decide⟩, ⟨500, by decide⟩⟩⟩
    let fault : Fault :=
      ⟨.postgres, some "cannot \"delete\"", some "first\nsecond", some "wait", by decide⟩
    let server : Server Unit := fun _ contact => match contact with
      | .statement _ => (.error fault, ())
      | _ => (.ok .null, ())
    let p := Database.connect options >>= fun _ => s.remove (.text "a")
    let setup : Setup := ⟨Level.warning.number, true⟩
    let h := (p.run server () .fresh).history
    CallsLibrary p ∧ setup.production = true ∧ AreReportable [] ∧
      setup.KeepsObjects [] false h ∧
      (entries h).map Entry.logger = [Database.logger, Store.logger] ∧
      (setup.logged [] false h).length = 1 ∧
      ∀ line ∈ setup.logged [] false h, IsObjectLine line.write := by
  intro options s fault server p setup h
  have hcalls : CallsLibrary p := (CallsLibrary.connect options).bind fun _ _ _ _ => .remove s _
  have hkeeps : setup.KeepsObjects [] false h :=
    keepsObjects_run hcalls rfl areReportable_nil false server () .fresh
  have hplain : ∀ entry ∈ entries h, setup.prints entry = true → entry.logger ∉ plainLoggers := by
    decide +kernel
  exact ⟨hcalls, rfl, areReportable_nil, hkeeps, by decide +kernel, by decide +kernel,
    hkeeps.all_iff.mpr hplain⟩

/-- Opening the database puts a line into the log that is no object. -/
theorem not_isObjectLine_connect :
    let options : PoolOptions := ⟨"postgresql://localhost/vectors", .int 1, .int 10, .int 60⟩
    let server : Server Unit := fun _ _ => (.ok .null, ())
    let setup : Setup := ⟨Level.info.number, true⟩
    let h := ((Database.connect options).run server () .fresh).history
    CallsLibrary (Database.connect options) ∧ setup.production = true ∧
      (setup.logged [] false h).map Line.write = ["Connection pool open (size 1..10)"] ∧
      ¬∀ line ∈ setup.logged [] false h, IsObjectLine line.write := by
  intro options server setup h
  have hlines :
      (setup.logged [] false h).map Line.write = ["Connection pool open (size 1..10)"] := by
    decide +kernel
  refine ⟨.connect options, rfl, hlines, fun hobjects => ?_⟩
  have hobject : IsObjectLine "Connection pool open (size 1..10)" := by
    rw [← List.forall_mem_singleton (p := IsObjectLine), ← hlines, List.forall_mem_map]
    exact hobjects
  have hbrace : "Connection pool open (size 1..10)".toList.head? ≠ some '\x7b' := by decide
  exact hbrace hobject.braced

end Log

namespace CommandLine.Plan

variable {σ : Type} (sources : Setting.Sources) (line : List String)

theorem areReportable_context : AreReportable (make sources line).context := by
  rw [make]
  split
  · exact areReportable_nil
  · split
    case h_1 plan hplan =>
      obtain ⟨settings, -, hplan⟩ := bind_eq_ok_iff.mp hplan
      obtain ⟨log, -, hplan⟩ := bind_eq_ok_iff.mp hplan
      cases hplan
      simp
    case h_2 => exact areReportable_nil

/-- The log of a command line that finds itself in production, with the name of its command bound to the context. -/
theorem keepsObjects_log (hproduction : (make sources line).log.production = true)
    (server : Server σ) (state : σ) (m : Memory) :
    let plan := make sources line
    plan.log.KeepsObjects plan.context plan.tracing.isSome
      (plan.program.run server state m).history :=
  keepsObjects_of_isReport (onlyReports_program sources line _ _ _ (path_run server _ state m))
    hproduction (areReportable_context sources line) _

end CommandLine.Plan

end VectorTable
