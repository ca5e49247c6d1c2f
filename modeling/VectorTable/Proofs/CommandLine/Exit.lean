import VectorTable.Proofs.CommandLine.Orders

/-!
# What an exit code promises

A command whose exit code is zero has sent and committed every statement that it is for, and for the check of the health the server has given the right answers. However the server behaves, the pool is closed once if it was opened.
-/

namespace VectorTable

open Program

namespace CommandLine

namespace Command

/-- The words with which a command begins to tell of its success. -/
def successWords : Command → String
  | initTable .. => "Table "
  | createIndex .. => "Created "
  | dropIndex .. => "Dropped index "
  | remove .. => "Deleted "
  | health => "Database healthy!"

/-- Whether the right answers have been given to the check of the health. -/
def ShowsHealth (h : History) : Prop :=
  ∃ answer version, answer.same (.int 1) = true ∧ version.isNull = false ∧
    (.statement healthStatement, .ok answer) ∈ exchanges h ∧
    (.statement versionStatement, .ok version) ∈ exchanges h

/-- Whether a command has done what it is for: nothing but the closing of the pool has failed, and its statements are committed. Health has to be shown by the right answers. -/
structure IsDone (settings : Except Failure Setting.Store) (command : Command) (h : History) :
    Prop where
  replies : ∀ contact reply, (contact, reply) ∈ exchanges h → contact ≠ .closePool →
    ∃ value, reply = .ok value
  committed : command.Commits settings (committed h)
  healthy : command = .health → ShowsHealth h

variable {settings : Except Failure Setting.Store} {command : Command} {h h₁ h₂ : History}

theorem IsDone.of_isAccomplished (haccomplished : IsAccomplished (command.statements settings) h)
    (hhealthy : command = .health → ShowsHealth h) : command.IsDone settings h :=
  ⟨haccomplished.replies, commits_of_statements haccomplished.committed, hhealthy⟩

theorem IsDone.congr (hdone : command.IsDone settings h₁) (hsame : exchanges h₂ = exchanges h₁) :
    command.IsDone settings h₂ := by
  refine ⟨?_, ?_, ?_⟩
  · rw [hsame]
    exact hdone.replies
  · rw [committed_congr hsame]
    exact hdone.committed
  · rw [ShowsHealth, hsame]
    exact hdone.healthy

end Command

/-! ### Commands on a table -/

/-- Stores of one table with the same settings. What a schema says of metadata makes no difference. -/
structure Agree (s t : Store) : Prop where
  settings : s.settings = t.settings
  names : ∃ metadata json, s.schema.toDraft =
    { t.schema.toDraft with metadataColumns := metadata, jsonColumn := json }

section Agree

variable {s t : Store} (h : Agree s t)

include h

theorem Agree.tablePieces_eq : s.schema.tablePieces = t.schema.tablePieces := by
  obtain ⟨_, _, hnames⟩ := h.names
  rw [Schema.tablePieces, Schema.tablePieces, hnames]

theorem Agree.indexName_eq (name : Option String) : s.indexName name = t.indexName name := by
  obtain ⟨_, _, hnames⟩ := h.names
  rw [Store.indexName, Store.indexName, Store.defaultIndexName, Store.defaultIndexName, hnames]

theorem Agree.applyIndexStatements_eq (index : IndexDefinition) (name : Option String)
    (concurrently : Bool) :
    s.applyIndexStatements index name concurrently =
      t.applyIndexStatements index name concurrently := by
  obtain ⟨_, _, hnames⟩ := h.names
  simp only [Store.applyIndexStatements, Store.createIndexPieces, h.indexName_eq, h.tablePieces_eq,
    hnames]

theorem Agree.dropIndexPieces_eq (name : Option String) :
    s.dropIndexPieces (s.indexName name) = t.dropIndexPieces (t.indexName name) := by
  obtain ⟨_, _, hnames⟩ := h.names
  simp only [Store.dropIndexPieces, Store.indexPieces, h.indexName_eq, hnames]

theorem Agree.removeAllStatements_eq (ids : Value) :
    s.removeAllStatements ids = t.removeAllStatements ids := by
  obtain ⟨_, _, hnames⟩ := h.names
  simp only [Store.removeAllStatements, Schema.delete, Schema.identifiers, Schema.qualifiedTable,
    Schema.identifierClause, Store.queryStatement, Store.timeout, h.tablePieces_eq, h.settings,
    hnames]

end Agree

theorem announces_onTable {words : String} {settings : Except Failure Setting.Store} {table : Draft}
    {distance : Distance} {statements : Store → Except Failure (List Statement)}
    {work : Store → Program Unit} (hwork : ∀ store, Announces words (statements store) (work store))
    (hagree : ∀ s t, Agree s t → statements s = statements t) :
    Announces words (onTable settings table distance statements)
      (ofExcept (Schema.ofDraft table) >>= fun schema =>
        Store.create schema none distance none settings >>= work) := by
  intro m h r hpath
  rcases path_ofExcept_bind_iff.mp hpath with ⟨failure, -, rfl, rfl⟩ | ⟨schema, hschema, hrest⟩
  · exact .inl ⟨failure, rfl, List.forall_mem_nil _⟩
  have hopens := Store.isInner_create schema none distance none settings
  rcases path_bind_iff.mp hrest with ⟨failure, hfailed, rfl⟩ | ⟨ho, hs, store, rfl, hopen, hlast⟩
  · exact .inl ⟨failure, rfl, hopens.isInner_of_mem hfailed⟩
  have hinner := hopens.isInner_of_mem hopen
  obtain ⟨hasked, hsettings, hnames⟩ := Store.path_create_ok hopen
  rcases hwork store _ _ _ hlast with ⟨failure, rfl, hmore⟩ |
    ⟨rfl, sent, hw, line, hbuilt, hcarried, hmore, hline, rfl⟩
  · refine .inl ⟨failure, rfl, fun event hevent => ?_⟩
    exact (List.mem_append.mp hevent).elim (hinner event) (hmore event)
  · refine .inr ⟨rfl, Store.introspection schema :: sent, ho ++ hw, line, ?_, hasked.append hcarried,
      fun event hevent => ?_, hline, (List.append_assoc _ _ _).symm⟩
    · rw [onTable, hschema, hsettings]
      have hsame := hagree store ⟨schema, distance, none, store.settings⟩ ⟨rfl, hnames⟩
      rw [hsame] at hbuilt
      show (do return Store.introspection schema :: (← statements _)) = _
      rw [hbuilt]
      rfl
    · exact (List.mem_append.mp hevent).elim (hinner event) (hmore event)

/-! ### Checking the health -/

theorem Database.path_run_ok {kind : StatementKind} {sql : String} {args : List Value} {m : Memory}
    {h : History} {value : Value} (hpath : Path (Database.run kind sql args) m h (.ok value)) :
    Carried [⟨kind, sql, [args], none⟩] h ∧
      (.statement ⟨kind, sql, [args], none⟩, .ok value) ∈ exchanges h := by
  obtain ⟨sent, hsent, hcarried⟩ := (Database.completes_run kind sql args).carried _ _ _ hpath
  cases hsent
  refine ⟨hcarried, ?_⟩
  rcases path_withConnection hpath with ⟨-, -, heq⟩ | ⟨_, -, heq⟩ |
    ⟨acquired, hw, result, released, hinner, rfl, heq⟩
  · cases heq
  · cases heq
  · cases released <;> cases heq
    obtain ⟨reply, rest, rfl, hrest⟩ := path_ask_iff.mp hinner
    cases reply with
    | error fault => cases (path_done_iff.mp hrest).2
    | ok answer =>
      cases (path_done_iff.mp hrest).2
      simp

theorem path_healthCheck_true {m : Memory} {h : History}
    (hpath : Path Database.healthCheck m h (.ok true)) :
    ∃ answer, answer.same (.int 1) = true ∧
      Path (Database.run .fetchValue "SELECT 1" []) m h (.ok answer) := by
  obtain ⟨hw, hend, result, rfl, hrun, hlast⟩ := path_settle_iff.mp hpath
  cases result with
  | ok answer =>
    obtain ⟨rfl, heq⟩ := path_done_iff.mp hlast
    rw [List.append_nil]
    exact ⟨answer, (Except.ok.inj heq).symm, hrun⟩
  | error failure =>
    dsimp only at hlast
    split at hlast
    · obtain ⟨rest, rfl, hdone⟩ := path_tell_iff.mp hlast
      cases (path_done_iff.mp hdone).2
    · cases (path_done_iff.mp hlast).2

/-- Both checks have been made, with these answers. -/
structure IsChecked (version : Value) (h : History) : Prop where
  carried : Carried [healthStatement, versionStatement] h
  answers : ∃ answer, answer.same (.int 1) = true ∧
    (.statement healthStatement, .ok answer) ∈ exchanges h ∧
    (.statement versionStatement, .ok version) ∈ exchanges h

/-- How checks may end: they fail, the database does not answer, or it answers and both checks have been made. -/
def ChecksEnd (done : Value → Prop) (r : Except Failure Checks) : Prop :=
  (∃ failure, r = .error failure) ∨ r = .ok [("postgres", false)] ∨
    ∃ version, r = .ok [("postgres", true), ("vector_extension", !version.isNull)] ∧ done version

theorem isInner_checks : IsInner checks := by
  refine Database.isInner_healthCheck.bind fun answers => ?_
  cases answers with
  | false => exact .done _
  | true => exact (Database.isInner_run _ _ _).bind fun _ => .done _

theorem path_checks {m : Memory} {h : History} {r : Except Failure Checks}
    (hpath : Path checks m h r) : ChecksEnd (fun version => IsChecked version h) r := by
  rcases path_bind_iff.mp hpath with ⟨failure, -, rfl⟩ | ⟨ha, hb, answers, rfl, hhealth, hrest⟩
  · exact .inl ⟨failure, rfl⟩
  cases answers with
  | false =>
    obtain ⟨-, rfl⟩ := path_done_iff.mp hrest
    exact .inr (.inl rfl)
  | true =>
    rcases path_bind_iff.mp hrest with ⟨failure, -, rfl⟩ | ⟨hv, hd, version, rfl, hversion, hdone⟩
    · exact .inl ⟨failure, rfl⟩
    · obtain ⟨rfl, rfl⟩ := path_done_iff.mp hdone
      obtain ⟨answer, hsame, hrun⟩ := path_healthCheck_true hhealth
      obtain ⟨hfirst, hanswered⟩ := Database.path_run_ok hrun
      obtain ⟨hsecond, htold⟩ := Database.path_run_ok hversion
      rw [List.append_nil]
      refine .inr (.inr ⟨version, rfl, hfirst.append hsecond, answer, hsame, ?_, ?_⟩)
      · rw [exchanges_append]
        exact List.mem_append_left _ hanswered
      · rw [exchanges_append]
        exact List.mem_append_right _ htold

/-- An outage makes checks end early; it is logged. Other endings stand. -/
theorem path_guarded {p : Program Checks} {m : Memory} {h : History} {r : Except Failure Checks}
    (hpath : Path (p.settle fun
      | .error (.fault fault) =>
        if isOutage fault then do
          Program.log (Log.event logger .error "Postgres health check failed"
            [("error", .text fault.text)])
          return [("postgres", false)]
        else Program.fail (.fault fault)
      | result => Program.ofExcept result) m h r) :
    ∃ hw hlog result, h = hw ++ hlog ∧ Path p m hw result ∧ exchanges hlog = [] ∧
      (∀ event ∈ hlog, event.isInner = true) ∧
      ∀ done, ChecksEnd done result → ChecksEnd done r := by
  obtain ⟨hw, hlog, result, rfl, hwork, hlast⟩ := path_settle_iff.mp hpath
  refine ⟨hw, hlog, result, rfl, hwork, ?_⟩
  cases result with
  | ok results =>
    obtain ⟨rfl, rfl⟩ := path_done_iff.mp hlast
    exact ⟨rfl, List.forall_mem_nil _, fun _ hends => hends⟩
  | error failure =>
    cases failure with
    | fault fault =>
      dsimp only at hlast
      split at hlast
      · obtain ⟨rest, rfl, hrest⟩ := path_tell_iff.mp hlast
        obtain ⟨rfl, rfl⟩ := path_done_iff.mp hrest
        exact ⟨rfl, by simp [Event.isInner, Note.isInner], fun _ _ => .inr (.inl rfl)⟩
      · obtain ⟨rfl, rfl⟩ := path_done_iff.mp hlast
        exact ⟨rfl, List.forall_mem_nil _, fun _ hends => hends⟩
    | _ =>
      obtain ⟨rfl, rfl⟩ := path_done_iff.mp hlast
      exact ⟨rfl, List.forall_mem_nil _, fun _ hends => hends⟩

theorem ChecksEnd.afterReply {done : Value → Prop} {result : Except Failure Checks}
    (hends : ChecksEnd done result) (reply : Reply) :
    ChecksEnd done (afterReply result reply) := by
  cases reply with
  | ok value => exact hends
  | error fault => exact .inl ⟨_, rfl⟩

theorem ChecksEnd.mono {done done' : Value → Prop} {r : Except Failure Checks}
    (hends : ChecksEnd done r) (hdone : ∀ version, done version → done' version) :
    ChecksEnd done' r :=
  hends.imp_right fun hends => hends.imp_right fun ⟨version, hr, h⟩ => ⟨version, hr, hdone version h⟩

/-- The checks are made between opening and closing the database, or it cannot be opened. -/
theorem path_examine {options : PoolOptions} (settings : Except Failure Setting.Store) {m : Memory}
    (hfresh : m.connected = false) {h : History} {r : Except Failure Checks}
    (hpath : Path (examine options) m h r) :
    PoolUse (exchanges h) ∧ printed h = [] ∧
      ChecksEnd (fun version => version.isNull = false → Command.health.IsDone settings h) r := by
  obtain ⟨hg, hc, result, rfl, hguarded, hclose⟩ := path_settle_iff.mp hpath
  obtain ⟨hw, hlog, checked, rfl, hwork, hsilent, hlogged, hends⟩ := path_guarded hguarded
  rcases path_bind_iff.mp hwork with ⟨failure, hopen, rfl⟩ | ⟨ho, hs, _, rfl, hopen, hchecks⟩
  · rcases Database.path_connect hopen with ⟨fault, rest, rfl, hinner, hrest, heq⟩ | ⟨_, _, _, heq⟩
    · cases heq
      have hall : ∀ event ∈ rest ++ hlog, event.isInner = true := fun event hevent =>
        (List.mem_append.mp hevent).elim (hinner event) (hlogged event)
      have hclosed : (m.afterAll (.contact (.createPool options) (.error fault) :: (rest ++ hlog))).connected
          = false := (Memory.connected_afterAll hall m).trans hfresh
      obtain ⟨rfl, rfl⟩ := Database.path_close_bind_unconnected hclosed hclose
      have hexchanges : exchanges (.contact (.createPool options) (.error fault) :: rest ++ hlog ++ []) =
          [(.createPool options, .error fault)] := by simp [hrest, hsilent]
      have hprinted : printed (rest ++ hlog) = [] := printed_of_isInner hall
      refine ⟨hexchanges ▸ .refused options fault, ?_, hends _ (.inl ⟨_, rfl⟩)⟩
      rw [List.append_nil]
      exact hprinted
    · cases heq
  · rcases Database.path_connect hopen with ⟨_, _, _, _, _, heq⟩ | ⟨value, entry, rfl, -⟩
    · cases heq
    have hinner := isInner_checks.isInner_of_mem hchecks
    have hall : ∀ event ∈ hs ++ hlog, event.isInner = true := fun event hevent =>
      (List.mem_append.mp hevent).elim (hinner event) (hlogged event)
    let opening : History := [.contact (.createPool options) (.ok value), .note .poolOpened,
      .note (.log entry)]
    have hopened : (m.afterAll (opening ++ hs ++ hlog)).connected = true := by
      rw [List.append_assoc, Memory.afterAll, List.foldl_append]
      exact Memory.connected_afterAll hall _
    obtain ⟨reply, hclosed, hunprinted, rfl⟩ := Database.path_close_bind_connected hopened hclose
    have hexchanges : exchanges (opening ++ hs ++ hlog ++ hc) =
        (.createPool options, .ok value) :: exchanges hs ++ [(.closePool, reply)] := by
      simp [opening, hsilent, hclosed]
    have hprinted : printed (hs ++ hlog) = [] := printed_of_isInner hall
    refine ⟨hexchanges ▸ .closed (isInner_of_mem_exchanges hinner) options value reply, ?_, ?_⟩
    · rw [printed_append, hunprinted, List.append_assoc, List.append_nil]
      exact hprinted
    · refine ((hends _ (path_checks hchecks)).afterReply reply).mono fun version hchecked hversion => ?_
      refine .of_isAccomplished (hchecked.carried.isAccomplished rfl hexchanges) fun _ => ?_
      obtain ⟨answer, hsame, hanswered, htold⟩ := hchecked.answers
      rw [Command.ShowsHealth, hexchanges]
      exact ⟨answer, version, hsame, hversion, by simp [hanswered], by simp [htold]⟩

theorem path_echoAll {texts : List String} {m : Memory} {h : History} {r : Except Failure Unit}
    (hpath : Path (echoAll texts) m h r) :
    exchanges h = [] ∧ printed h = texts.map Text.withoutEscapes ∧ r = .ok () := by
  induction texts generalizing m h r with
  | nil =>
    obtain ⟨rfl, rfl⟩ := path_done_iff.mp hpath
    exact ⟨rfl, rfl, rfl⟩
  | cons text texts ih =>
    obtain ⟨rest, rfl, hrest⟩ := path_tell_iff.mp hpath
    obtain ⟨hexchanges, hprinted, rfl⟩ := ih hrest
    refine ⟨hexchanges, ?_, rfl⟩
    rw [List.map_cons, ← hprinted]
    rfl

def reportTexts (results : Checks) : List String :=
  ["\nHealth Check Results:", rule] ++ results.map checkLine ++ [rule]

/-- What comes after the checks: their results are printed, and then one line that says whether all is well. -/
theorem path_health {options : PoolOptions} {m : Memory} {h : History} {r : Except Failure Nat}
    (hpath : Path (health options) m h r) :
    (∃ failure, Path (examine options) m h (.error failure) ∧ r = .error failure) ∨
      ∃ hx hp results, Path (examine options) m hx (.ok results) ∧ h = hx ++ hp ∧ exchanges hp = [] ∧
        ((results.all Prod.snd = true ∧ r = .ok 0) ∨
          results.all Prod.snd = false ∧ r = .ok 1 ∧
            printed hp = (reportTexts results ++ ["Database unhealthy!"]).map Text.withoutEscapes) := by
  refine (path_bind_iff.mp hpath).imp_right ?_
  rintro ⟨hx, hp, results, rfl, hexamined, hrest⟩
  refine ⟨hx, hp, results, hexamined, rfl, ?_⟩
  rcases path_bind_iff.mp hrest with ⟨failure, htold, -⟩ | ⟨h₁, h₂, _, rfl, htold, hlast⟩
  · cases (path_echoAll htold).2.2
  obtain ⟨hnone, hprinted, -⟩ := path_echoAll htold
  split at hlast
  case isTrue hwell =>
    obtain ⟨rest, rfl, hdone⟩ := path_tell_iff.mp hlast
    obtain ⟨rfl, rfl⟩ := path_done_iff.mp hdone
    exact ⟨by simp [hnone], .inl ⟨hwell, rfl⟩⟩
  case isFalse hill =>
    obtain ⟨rest, rfl, hdone⟩ := path_tell_iff.mp hlast
    obtain ⟨rfl, rfl⟩ := path_done_iff.mp hdone
    refine ⟨by simp [hnone], .inr ⟨by simpa using hill, rfl, ?_⟩⟩
    have hlines : printed h₁ = (reportTexts results).map Text.withoutEscapes := hprinted
    rw [printed_append, hlines, List.map_append]
    rfl

/-- A report that is not all well has no line that says so. -/
theorem not_prefix_healthy {results : Checks}
    (hresults : results = [("postgres", false)] ∨
      results = [("postgres", true), ("vector_extension", false)]) :
    ∀ text ∈ (reportTexts results ++ ["Database unhealthy!"]).map Text.withoutEscapes,
      ¬ "Database healthy!".toList <+: text.toList := by
  rcases hresults with rfl | rfl <;> decide

theorem isTrustworthy_health {options : PoolOptions} (settings : Except Failure Setting.Store)
    {m : Memory} (hfresh : m.connected = false) {h : History} {r : Except Failure Nat}
    (hpath : Path (health options) m h r) :
    IsTrustworthy "Database healthy!" (Command.health.IsDone settings h) h r := by
  rcases path_health hpath with ⟨failure, hexamined, rfl⟩ |
    ⟨hx, hp, results, hexamined, rfl, hsilent, hend⟩
  · obtain ⟨hpool, hprinted, -⟩ := path_examine settings hfresh hexamined
    refine ⟨hpool, nofun, ?_⟩
    rw [hprinted]
    exact nofun
  · obtain ⟨hpool, hprinted, hends⟩ := path_examine settings hfresh hexamined
    have hsame : exchanges (hx ++ hp) = exchanges hx := by rw [exchanges_append, hsilent, List.append_nil]
    have hlines : printed (hx ++ hp) = printed hp := by rw [printed_append, hprinted, List.nil_append]
    -- If a check failed, its result is one of two, and if none failed, all was done.
    have hwell : results.all Prod.snd = true → Command.health.IsDone settings (hx ++ hp) := by
      intro hall
      rcases hends with ⟨failure, heq⟩ | heq | ⟨version, heq, hdone⟩
      · cases heq
      · cases heq
        cases hall
      · cases heq
        exact (hdone (by simpa using hall)).congr hsame
    refine ⟨hsame ▸ hpool, fun hexit => ?_, fun text htext hline => ?_⟩
    · rcases hend with ⟨hall, -⟩ | ⟨-, rfl, -⟩
      · exact hwell hall
      · cases hexit
    · rcases hend with ⟨hall, -⟩ | ⟨hill, -, htold⟩
      · exact hwell hall
      · rw [hlines, htold] at htext
        refine absurd hline (not_prefix_healthy ?_ text htext)
        rcases hends with ⟨failure, heq⟩ | heq | ⟨version, heq, -⟩
        · cases heq
        · cases heq
          exact .inl rfl
        · cases heq
          have hnull : version.isNull = true := by simpa using hill
          rw [hnull]
          exact .inr rfl

/-! ### All commands -/

theorem IsTrustworthy.imp {words : String} {done done' : Prop} {h : History} {r : Except Failure Nat}
    (htrustworthy : IsTrustworthy words done h r) (himp : done → done') : IsTrustworthy words done' h r :=
  ⟨htrustworthy.pool, fun hexit => himp (htrustworthy.exit hexit),
    fun text htext hline => himp (htrustworthy.line text htext hline)⟩

theorem isTrustworthy_onStore (e : Environment) {words aim : String} {table : Draft}
    {distance : Distance} {statements : Store → Except Failure (List Statement)}
    {work : Store → Program Unit} (hwork : ∀ store, Announces words (statements store) (work store))
    (hagree : ∀ s t, Agree s t → statements s = statements t) {c : Char} {cs : List Char}
    (hwords : words.toList = c :: cs) (hc : c ≠ 'F') {m : Memory} {h : History}
    {r : Except Failure Nat} (hpath : Path (onStore e aim table distance work) m h r) :
    IsTrustworthy words (IsAccomplished (onTable e.store table distance statements) h) h r :=
  (announces_onTable hwork hagree).isTrustworthy hwords hc hpath

theorem isTrustworthy_command (e : Environment) (command : Command) {m : Memory}
    (hfresh : m.connected = false) {h : History} {r : Except Failure Nat}
    (hpath : Path (command.run e) m h r) :
    IsTrustworthy command.successWords (command.IsDone e.store h) h r := by
  cases command with
  | initTable schema size overwrite storeMetadata =>
    have hwork := announces_bind_echo
      (TableSetup.completes_create schema (.int size) overwrite storeMetadata)
      (by decide : '\x1b' ∉ "Table ".toList) fun _ => schema.qualifiedTable ++ " initialized successfully"
    simp only [← String.append_assoc] at hwork
    exact (hwork.isTrustworthy rfl (by decide) hpath).imp fun hdone => .of_isAccomplished hdone nofun
  | createIndex table methodWord index name concurrently =>
    have hwork (store : Store) := announces_bind_echo
      (store.completes_applyIndex index name concurrently)
      (by decide : '\x1b' ∉ "Created ".toList) fun name =>
        methodWord ++ " index " ++ name ++ " on " ++ table.table
    simp only [← String.append_assoc] at hwork
    refine (isTrustworthy_onStore e hwork (fun s t hst => ?_) rfl (by decide) hpath).imp
      fun hdone => .of_isAccomplished hdone nofun
    exact congrArg Except.ok (hst.applyIndexStatements_eq index name concurrently)
  | dropIndex table name =>
    have hwork (store : Store) := announces_bind_echo (store.completes_dropIndex name)
      (by decide : '\x1b' ∉ "Dropped index ".toList) fun _ => store.indexName name
    refine (isTrustworthy_onStore e hwork (fun s t hst => ?_) rfl (by decide) hpath).imp
      fun hdone => .of_isAccomplished hdone nofun
    rw [hst.dropIndexPieces_eq]
  | remove table ids =>
    have hwork (store : Store) := announces_bind_echo
      (store.completes_removeAll (.list (ids.map .text)))
      (by decide : '\x1b' ∉ "Deleted ".toList) fun deleted =>
        toString deleted ++ " of " ++ toString ids.length ++ " rows from " ++ table.table
    simp only [← String.append_assoc] at hwork
    exact (isTrustworthy_onStore e hwork (fun s t hst => hst.removeAllStatements_eq _) rfl (by decide)
      hpath).imp fun hdone => .of_isAccomplished hdone nofun
  | health => exact isTrustworthy_health e.store hfresh hpath

theorem path_forM_install {tracing : Option Trace.Setup} {h : History} {r : Except Failure PUnit}
    (hpath : Path (tracing.forM Trace.Setup.install) .fresh h r) :
    exchanges h = [] ∧ printed h = [] ∧ (Memory.fresh.afterAll h).connected = false ∧ r = .ok () := by
  cases tracing with
  | none =>
    obtain ⟨rfl, rfl⟩ := path_done_iff.mp hpath
    exact ⟨rfl, rfl, rfl, rfl⟩
  | some setup =>
    obtain ⟨rest, rfl, hrest⟩ := path_tell_iff.mp hpath
    obtain ⟨rfl, rfl⟩ := path_done_iff.mp hrest
    exact ⟨rfl, rfl, rfl, rfl⟩

theorem isTrustworthy_of_path {sources : Setting.Sources} {line : List String} {group : Group}
    (hline : Group.read line = .ok group) {command : Command}
    (hcommand : group.command.read group.words = .ok command) {h : History}
    {r : Except Failure Nat} (hpath : Path (Plan.make sources line).program .fresh h r) :
    IsTrustworthy command.successWords
      (command.IsDone ((Setting.Store.read sources).mapError .invalidSettings) h) h r := by
  rw [Plan.make, hline] at hpath
  cases hplan : Plan.ofGroup sources group with
  | error failure =>
    simp only [hplan] at hpath
    obtain ⟨rfl, rfl⟩ := path_done_iff.mp hpath
    exact ⟨.silent, nofun, nofun⟩
  | ok plan =>
    simp only [hplan] at hpath
    obtain ⟨general, -, hplan⟩ := bind_eq_ok_iff.mp hplan
    obtain ⟨log, -, hplan⟩ := bind_eq_ok_iff.mp hplan
    cases hplan
    simp only [hcommand] at hpath
    rcases path_bind_iff.mp hpath with ⟨failure, hfailed, -⟩ | ⟨ht, hs, _, rfl, hinstalled, hrun⟩
    · cases (path_forM_install hfailed).2.2.2
    · obtain ⟨hsilent, hunprinted, hconnected, -⟩ := path_forM_install hinstalled
      have hsame : exchanges (ht ++ hs) = exchanges hs := by
        rw [exchanges_append, hsilent, List.nil_append]
      have hlines : printed (ht ++ hs) = printed hs := by
        rw [printed_append, hunprinted, List.nil_append]
      have htrustworthy := (isTrustworthy_command _ command hconnected hrun).imp
        fun hdone => hdone.congr hsame
      exact ⟨hsame ▸ htrustworthy.pool, htrustworthy.exit, hlines ▸ htrustworthy.line⟩

/-- Whatever the server does, a command closes its pool once if it was opened. If it ends with exit code zero, or if it prints a line that begins with its words of success, then every server step but the closing of the pool has succeeded and its statements are committed; for the check of the health, the database has given the right answers. -/
theorem isTrustworthy_run {σ : Type} {sources : Setting.Sources} {line : List String} {group : Group}
    (hline : Group.read line = .ok group) {command : Command}
    (hcommand : group.command.read group.words = .ok command) (server : Server σ) (state : σ) :
    let o := (Plan.make sources line).program.run server state .fresh
    let settings := (Setting.Store.read sources).mapError .invalidSettings
    IsTrustworthy command.successWords (command.IsDone settings o.history) o.history o.result :=
  isTrustworthy_of_path hline hcommand (path_run server (Plan.make sources line).program state .fresh)

/-- A table is replaced by one with another column: whoever sees the exit code or the line knows which statements are committed. -/
theorem isTrustworthy_run_initTable :
    let server : Server Unit := fun _ _ => (.ok .null, ())
    let sources : Setting.Sources := ⟨[], [], []⟩
    let words := ["docs", "--vector-size", "3", "--metadata-column", "page:INT:notnull", "--overwrite"]
    let page : TypedColumn := ⟨"page", "INT", false, by decide, by decide⟩
    let schema : Schema := ⟨{ Draft.ofTable "docs" with metadataColumns := [.typed page] }, by decide⟩
    let command : Command := .initTable schema 3 true true
    let o := (Plan.make sources ("init-table" :: words)).program.run server () .fresh
    Group.read ("init-table" :: words) = .ok ⟨false, .initTable, words⟩ ∧
      CommandName.initTable.read words = .ok command ∧ exitCode o.result = 0 ∧
      printed o.history = ["Table \"public\".\"docs\" initialized successfully"] ∧
      command.IsDone ((Setting.Store.read sources).mapError .invalidSettings) o.history ∧
      (committed o.history).map Statement.sql =
        ["CREATE EXTENSION IF NOT EXISTS vector", "DROP TABLE IF EXISTS \"public\".\"docs\"",
          "CREATE TABLE \"public\".\"docs\" (\"langchain_id\" UUID PRIMARY KEY, \"content\" TEXT NULL, \"embedding\" vector(3) NOT NULL, \"page\" INT NOT NULL, \"langchain_metadata\" JSON)"] := by
  intro server sources words page schema command o
  have hline : Group.read ("init-table" :: words) = .ok ⟨false, .initTable, words⟩ := rfl
  have hcommand : CommandName.initTable.read words = .ok command := by with_unfolding_all rfl
  have hexit : exitCode o.result = 0 := by decide +kernel
  have hprinted : printed o.history = ["Table \"public\".\"docs\" initialized successfully"] := by
    decide +kernel
  have htrustworthy : IsTrustworthy command.successWords
      (command.IsDone ((Setting.Store.read sources).mapError .invalidSettings) o.history) o.history
      o.result := isTrustworthy_run hline hcommand server ()
  exact ⟨hline, hcommand, hexit, hprinted, htrustworthy.exit hexit, by decide +kernel⟩

end CommandLine

end VectorTable
