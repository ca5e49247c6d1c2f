import VectorTable.Proofs.Program.Bracket
import VectorTable.Proofs.Store.Insert
import VectorTable.Store.Create
import VectorTable.Store.Index
import VectorTable.Store.Read
import VectorTable.TableSetup

/-!
# How operations conduct themselves

Every operation on a table holds at most one connection and gives it back at the end, and every transaction and savepoint that it begins is completed or undone once, whatever the server replies. Insertion, search, deletion and the creation of a table run inside one transaction; everything else runs outside of any. Setting up a table commits everything or nothing, so a table that was to be replaced is still there after a failure.
-/

namespace VectorTable

open Program

/-! ### Operations -/

inductive Operation
  | create (schema : Schema) (ignored : Option (List String)) (distance : Distance)
    (tuning : Option Tuning) (settings : Except Failure Setting.Store)
  | addAll (store : Store) (insertion : Store.Insertion)
  | search (store : Store) (request : SearchRequest)
  | getByIds (store : Store) (ids : Value)
  | removeAll (store : Store) (ids : Value)
  | applyIndex (store : Store) (index : IndexDefinition) (name : Option String)
    (concurrently : Bool)
  | dropIndex (store : Store) (name : Option String)
  | reindex (store : Store) (name : Option String)
  | setUpTable (schema : Schema) (size : Value) (overwrite storeMetadata : Bool)

namespace Operation

def program : Operation → Program Unit
  | create schema ignored distance tuning settings => do
    let _ ← Store.create schema ignored distance tuning settings
  | addAll store insertion => do let _ ← store.addAll insertion
  | search store request => do let _ ← store.search request
  | getByIds store ids => do let _ ← store.getByIds ids
  | removeAll store ids => do let _ ← store.removeAll ids
  | applyIndex store index name concurrently => do
    let _ ← store.applyIndex index name concurrently
  | dropIndex store name => store.dropIndex name
  | reindex store name => store.reindex name
  | setUpTable schema size overwrite storeMetadata =>
    TableSetup.create schema size overwrite storeMetadata

/-- Whether the statements of an operation belong together in one transaction. -/
def isTransactional : Operation → Bool
  | addAll .. | search .. | removeAll .. | setUpTable .. => true
  | create .. | getByIds .. | applyIndex .. | dropIndex .. | reindex .. => false

end Operation

/-! ### The parts of operations -/

namespace Program

theorem isSilent_freshIds {β : Type} (items : List β) : IsSilent (freshIds items) :=
  fun _ _ _ hpath => (path_freshIds hpath).1.1

theorem isSilent_fail {α : Type} (failure : Failure) : IsSilent (fail failure : Program α) :=
  isSilent_ofExcept (.error failure)

theorem isSilent_collectMetrics : IsSilent collectMetrics := by
  apply isSilent_look
  intro memory
  split
  · exact isSilent_pure ()
  · exact (isSilent_note _).bind fun _ => isSilent_note _

theorem isSilent_recordRowsDeleted (amount : Value) : IsSilent (recordRowsDeleted amount) :=
  (isSilent_ofExcept _).bind fun _ => isSilent_note _

theorem onlyStatements_of_statement {kind : StatementKind} {sql : String} {args : List Value}
    {timeout : Option (Option Float)} {m : Memory} {h : History} {r : Except Failure Value}
    (hpath : Path (statement kind sql args timeout) m h r) : OnlyStatements (exchanges h) := by
  obtain ⟨reply, rest, rfl, hrest⟩ := path_ask_iff.mp hpath
  have hdone : rest = [] := by
    cases reply <;> exact (path_done_iff.mp hrest).1
  rw [hdone]
  exact onlyStatements_nil.cons _ reply

theorem onlyStatements_of_bind {α β : Type} {p : Program α} {f : α → Program β}
    (hp : ∀ m h r, Path p m h r → OnlyStatements (exchanges h))
    (hf : ∀ a m h r, Path (f a) m h r → OnlyStatements (exchanges h)) {m : Memory} {h : History}
    {r : Except Failure β} (hpath : Path (p >>= f) m h r) : OnlyStatements (exchanges h) := by
  rcases path_bind_iff.mp hpath with ⟨failure, hfirst, -⟩ | ⟨h₁, h₂, a, rfl, hfirst, hrest⟩
  · exact hp _ _ _ hfirst
  · rw [exchanges_append]
    exact (hp _ _ _ hfirst).append (hf a _ _ _ hrest)

theorem path_accountFor {α : Type} {table operation : String} {work : Program α} {m : Memory}
    {h : History} {r : Except Failure α} (hpath : Path (accountFor table operation work) m h r) :
    ∃ result, Path work m h result ∧ ∀ a, result = .ok a ↔ r = .ok a := by
  obtain ⟨result, hwork, rfl⟩ := path_accountFor_eq hpath
  refine ⟨result, hwork, fun a => ?_⟩
  cases result with
  | ok b => exact Iff.rfl
  | error failure => exact ⟨nofun, nofun⟩

theorem Conducts.accountFor {α : Type} {transactional : Bool} {table operation : String}
    {work : Program α} (hwork : Conducts transactional work) :
    Conducts transactional (accountFor table operation work) := by
  apply conducts_of_exchanges_eq hwork
  intro m h r hpath
  obtain ⟨result, hinner, -⟩ := path_accountFor hpath
  exact ⟨h, result, hinner, rfl⟩

end Program

namespace Store

variable {s : Store}

theorem conducts_operation {α : Type} {transactional : Bool} {name : String}
    {attributes : Attributes} {work : Program α} (hwork : Conducts transactional work) :
    Conducts transactional (s.operation name attributes work) := by
  apply conducts_of_exchanges_eq hwork
  intro m h r hpath
  obtain ⟨hw, result, hw', -, hsame, -⟩ := exists_path_of_operation hpath
  exact ⟨hw, result, hw', hsame⟩

theorem isBracketed_sendChunks (sql : String) (timeout : Option (Option Float))
    (chunks : List (List (List Value))) : IsBracketed (sendChunks sql timeout chunks) := by
  induction chunks with
  | nil => exact isBracketed_pure ()
  | cons chunk chunks ih => exact (isBracketed_statement .executeMany sql chunk timeout).bind fun _ => ih

/-- A setting is tried in a savepoint, and what the server answers is passed over. -/
theorem isBracketed_tune (statement : String) : IsBracketed (s.tune statement) := by
  intro m h r hpath
  obtain ⟨h₁, h₂, result, rfl, hscope, hrest⟩ := path_settle_iff.mp hpath
  have hbracketed := (isBracketed_statement .execute statement [[]] s.timeout).path_savepoint hscope
  -- Only what the server answers is passed over; a lost connection or a cancellation is not.
  have hhandled : exchanges h₂ = [] ∧ failure? r = passedOver (failure? result) := by
    cases result with
    | ok value =>
      obtain ⟨rfl, rfl⟩ := path_done_iff.mp hrest
      exact ⟨rfl, rfl⟩
    | error failure =>
      cases failure with
      | fault fault =>
        simp only at hrest
        split at hrest
        case isTrue hanswer =>
          obtain ⟨last, rfl, hlast⟩ := path_tell_iff.mp hrest
          obtain ⟨rfl, rfl⟩ := path_done_iff.mp hlast
          exact ⟨rfl, by simp [failure?, passedOver, hanswer]⟩
        case isFalse hanswer =>
          obtain ⟨rfl, rfl⟩ := path_done_iff.mp hrest
          exact ⟨rfl, by simp [failure?, passedOver, hanswer]⟩
      | _ =>
        obtain ⟨rfl, rfl⟩ := path_done_iff.mp hrest
        exact ⟨rfl, rfl⟩
  rw [exchanges_append, hhandled.1, List.append_nil, hhandled.2]
  exact hbracketed

theorem isBracketed_tuneAll (statements : List String) : IsBracketed (s.tuneAll statements) := by
  induction statements with
  | nil => exact isBracketed_pure ()
  | cons statement statements ih => exact (s.isBracketed_tune statement).bind fun _ => ih

end Store

theorem TableSetup.isBracketed_executeAll (statements : List String) :
    IsBracketed (executeAll statements) := by
  induction statements with
  | nil => exact isBracketed_pure ()
  | cons sql statements ih =>
    exact (isBracketed_statement .execute sql [[]] none).bind fun _ => ih

/-! ### Each operation -/

namespace Store

variable (s : Store)

theorem conducts_create (schema : Schema) (ignored : Option (List String)) (distance : Distance)
    (tuning : Option Tuning) (settings : Except Failure Setting.Store) :
    Conducts false (create schema ignored distance tuning settings) := by
  have hintrospect : Conducts false (introspect schema) :=
    (conducts_withConnection fun _ _ _ => onlyStatements_of_statement).accountFor
  rw [create]
  split
  · exact (isSilent_fail _).conducts
  · apply hintrospect.bind_isSilent
    intro answer
    apply (isSilent_ofExcept _).bind
    intro resolved
    apply (isSilent_note _).bind
    intro _
    apply (isSilent_ofExcept _).bind
    intro settings
    exact isSilent_collectMetrics.bind fun _ => isSilent_pure _

theorem conducts_insertRecords (records : List Record) : Conducts true (s.insertRecords records) := by
  have hrows : IsSilent (s.schema.rowsNoted records) :=
    fun _ _ _ hpath => (Schema.path_rowsNoted hpath).1.1
  apply hrows.bind_conducts
  intro rows
  apply (conducts_operation (isBracketed_sendChunks _ _ _).conducts_inTransaction).bind_isSilent
  intro _
  exact (isSilent_note _).bind fun _ => isSilent_note _

theorem conducts_addAll (insertion : Insertion) : Conducts true (s.addAll insertion) := by
  have hchoice : IsSilent insertion.chooseIds := by
    rw [Insertion.chooseIds]
    split
    · exact isSilent_pure _
    · exact isSilent_freshIds _
  rw [addAll_eq]
  apply hchoice.bind_conducts
  intro ids
  split
  · split
    · exact (isSilent_pure _).conducts
    · apply (isSilent_ofExcept _).bind_conducts
      intro records
      exact (s.conducts_insertRecords records).bind_isSilent fun _ => isSilent_pure _
  · exact (isSilent_fail _).conducts

theorem conducts_search (request : SearchRequest) : Conducts true (s.search request) := by
  apply (isSilent_ofExcept _).bind_conducts
  intro query
  have hwork := (isBracketed_tuneAll (s := s) (Tuning.statements s.tuning)).bind fun _ =>
    isBracketed_statement .fetch query.sql [query.args] s.timeout
  apply (conducts_operation hwork.conducts_inTransaction).bind_isSilent
  intro answer
  apply (isSilent_ofExcept _).bind
  intro rows
  apply (isSilent_ofExcept _).bind
  intro found
  apply (isSilent_ofExcept _).bind
  intro kept
  apply (isSilent_note _).bind
  intro _
  exact (isSilent_note _).bind fun _ => isSilent_pure _

theorem conducts_getByIds (ids : Value) : Conducts false (s.getByIds ids) := by
  rw [getByIds]
  split
  · exact (isSilent_pure _).conducts
  · apply (isSilent_ofExcept _).bind_conducts
    intro query
    apply (isSilent_ofExcept _).bind_conducts
    intro count
    apply (conducts_operation (conducts_withConnection fun _ _ _ =>
      onlyStatements_of_statement)).bind_isSilent
    intro answer
    exact (isSilent_ofExcept _).bind fun _ => isSilent_ofExcept _

theorem conducts_removeAll (ids : Value) : Conducts true (s.removeAll ids) := by
  apply (isSilent_ofExcept _).bind_conducts
  intro query
  apply (isSilent_ofExcept _).bind_conducts
  intro count
  have hwork := isBracketed_statement .execute query.sql [query.args] s.timeout
  apply (conducts_operation hwork.conducts_inTransaction).bind_isSilent
  intro status
  apply (isSilent_recordRowsDeleted _).bind
  intro _
  exact (isSilent_note _).bind fun _ => isSilent_pure _

theorem conducts_applyIndex (index : IndexDefinition) (name : Option String)
    (concurrently : Bool) : Conducts false (s.applyIndex index name concurrently) := by
  have hwarn : IsSilent (s.warnDistance index) := by
    rw [warnDistance]
    split
    · exact isSilent_pure ()
    · exact isSilent_note _
  apply hwarn.bind_conducts
  intro _
  apply (conducts_operation (conducts_withConnection ?_)).bind_isSilent
  · intro _
    exact (isSilent_note _).bind fun _ => isSilent_pure _
  · intro m h r hpath
    split at hpath
    · exact onlyStatements_of_bind (fun _ _ _ => onlyStatements_of_statement)
        (fun _ _ _ _ => onlyStatements_of_statement) hpath
    · exact onlyStatements_of_statement hpath

theorem conducts_indexStatement {operation sql : String} {notes : Value → Program Unit}
    (hnotes : ∀ answer, IsSilent (notes answer)) :
    Conducts false (s.operation operation []
      (withConnection (statement .execute sql [] none)) >>= notes) :=
  (conducts_operation (conducts_withConnection fun _ _ _ =>
    onlyStatements_of_statement)).bind_isSilent hnotes

end Store

theorem TableSetup.conducts_create (schema : Schema) (size : Value) (overwrite storeMetadata : Bool) :
    Conducts true (create schema size overwrite storeMetadata) := by
  apply (isSilent_ofExcept _).bind_conducts
  intro pieces
  have hwork := isBracketed_executeAll (statements schema pieces overwrite)
  exact hwork.conducts_inTransaction.accountFor.bind_isSilent fun _ => isSilent_note _

theorem TableSetup.path_executeAll {statements : List String} {m : Memory} {h : History}
    {r : Except Failure Unit} (hpath : Path (executeAll statements) m h r) :
    OnlyStatements (exchanges h) ∧
      (r = .ok () → (answered (exchanges h)).map Statement.sql = statements) := by
  induction statements generalizing m h r with
  | nil =>
    obtain ⟨rfl, rfl⟩ := path_done_iff.mp hpath
    exact ⟨onlyStatements_nil, fun _ => rfl⟩
  | cons sql statements ih =>
    rcases path_contact_bind_iff.mp hpath with ⟨fault, rfl, rfl⟩ | ⟨answer, rest, rfl, hrest⟩
    · exact ⟨onlyStatements_nil.cons _ _, fun hok => nomatch hok⟩
    · obtain ⟨honly, hanswered⟩ := ih hrest
      refine ⟨honly.cons _ _, fun hok => ?_⟩
      rw [← hanswered hok]
      rfl

/-- Setting up a table commits all its statements, or it fails and changes nothing; the statement that drops the old table is undone too. Only a connection that cannot be given back is a failure after the fact. -/
theorem TableSetup.path_create {schema : Schema} {size : Value} {overwrite storeMetadata : Bool}
    {m : Memory} {h : History} {r : Except Failure Unit}
    (hpath : Path (create schema size overwrite storeMetadata) m h r) :
    (∃ failure, r = .error failure ∧
        ((∃ fault, (.release, .error fault) ∈ exchanges h) ∨ committed h = [])) ∨
      r = .ok () ∧ ∃ pieces, schema.createTable size storeMetadata = .ok pieces ∧
        (committed h).map Statement.sql = statements schema pieces overwrite := by
  rcases path_bind_iff.mp hpath with ⟨failure, hrefused, rfl⟩ | ⟨_, h₂, pieces, rfl, hcreate, hwork⟩
  · obtain ⟨rfl, -⟩ := path_done_iff.mp hrefused
    exact .inl ⟨failure, rfl, .inr rfl⟩
  obtain ⟨rfl, hpieces⟩ := path_done_iff.mp hcreate
  rcases path_bind_iff.mp hwork with ⟨failure, hfailed, rfl⟩ | ⟨h₃, _, _, rfl, hdone, hlast⟩
  · obtain ⟨result, htransaction, hsame⟩ := path_accountFor hfailed
    rcases ends_inTransaction htransaction fun _ _ hw => (path_executeAll hw).1 with
      ⟨_, -, hend⟩ | ⟨_, _, _, _, _, _, hok, -⟩
    · exact .inl ⟨failure, rfl, hend.imp_left fun ⟨_, fault, _, hfault⟩ => ⟨fault, hfault⟩⟩
    · cases (hsame _).mp hok
  · -- After the transaction only the log is written, and that does not fail.
    obtain ⟨rest, rfl, hrest⟩ := path_tell_iff.mp hlast
    obtain ⟨rfl, rfl⟩ := path_done_iff.mp hrest
    obtain ⟨result, htransaction, hsame⟩ := path_accountFor hdone
    obtain rfl := (hsame _).mpr rfl
    rcases ends_inTransaction htransaction fun _ _ hw => (path_executeAll hw).1 with
      ⟨_, heq, -⟩ | ⟨_, _, _, _, _, _, -, hstatements, -, hcommitted⟩
    · cases heq
    · have hexchanges : ∀ note, exchanges ([] ++ (h₃ ++ [.note note])) = exchanges h₃ := by simp
      refine .inr ⟨rfl, pieces, hpieces.symm, ?_⟩
      rw [committed_congr (hexchanges _), hcommitted]
      exact (path_executeAll hstatements).2 rfl

theorem Operation.conducts_program (o : Operation) : Conducts o.isTransactional o.program := by
  cases o with
  | create schema ignored distance tuning settings =>
    exact (Store.conducts_create _ _ _ _ _).bind_isSilent fun _ => isSilent_pure ()
  | addAll store insertion =>
    exact (store.conducts_addAll insertion).bind_isSilent fun _ => isSilent_pure ()
  | search store request =>
    exact (store.conducts_search request).bind_isSilent fun _ => isSilent_pure ()
  | getByIds store ids =>
    exact (store.conducts_getByIds ids).bind_isSilent fun _ => isSilent_pure ()
  | removeAll store ids =>
    exact (store.conducts_removeAll ids).bind_isSilent fun _ => isSilent_pure ()
  | applyIndex store index name concurrently =>
    exact (store.conducts_applyIndex index name concurrently).bind_isSilent fun _ => isSilent_pure ()
  | dropIndex store name => exact store.conducts_indexStatement fun _ => isSilent_note _
  | reindex store name => exact store.conducts_indexStatement fun _ => isSilent_pure ()
  | setUpTable schema size overwrite storeMetadata => exact TableSetup.conducts_create _ _ _ _

/-- However the server behaves, the contacts of an operation are in brackets: one connection, released at the end, with one transaction around all statements or with none. Setting up a table commits all its statements if it succeeds; if it fails, everything is as it was. -/
theorem Operation.conduct_run {σ : Type} (o : Operation) (server : Server σ) (state : σ)
    (m : Memory) :
    let run := o.program.run server state m
    Conduct o.isTransactional (exchanges run.history) ∧
      ∀ schema size overwrite storeMetadata,
        o = .setUpTable schema size overwrite storeMetadata →
        (∃ failure, run.result = .error failure ∧
            ((∃ fault, (.release, .error fault) ∈ exchanges run.history) ∨
              committed run.history = [])) ∨
          run.result = .ok () ∧ ∃ pieces, schema.createTable size storeMetadata = .ok pieces ∧
            (committed run.history).map Statement.sql =
              TableSetup.statements schema pieces overwrite := by
  intro run
  have hpath : Path o.program m run.history run.result := path_run server o.program state m
  refine ⟨o.conducts_program _ _ _ hpath, ?_⟩
  intro schema size overwrite storeMetadata hsetup
  rw [hsetup] at hpath
  exact TableSetup.path_create hpath

/-- The old table is dropped and a new one created, but the transaction cannot be completed: the old table is still there. -/
theorem Operation.conduct_run_overwrite :
    let o : Operation := .setUpTable ⟨Draft.ofTable "t", by decide⟩ (.int 3) true true
    let server : Server Unit := fun _ contact => match contact with
      | .complete _ => (.error ⟨.postgres, some "no space", none, none, by decide⟩, ())
      | _ => (.ok .null, ())
    let run := o.program.run server () ⟨true, 0, true⟩
    Conduct true (exchanges run.history) ∧ (answered (exchanges run.history)).length = 3 ∧
      committed run.history = [] := by
  intro o server run
  have hanswered : (answered (exchanges run.history)).length = 3 := by with_unfolding_all rfl
  obtain ⟨failure, hfailure⟩ : ∃ failure, run.result = .error failure :=
    ⟨_, by with_unfolding_all rfl⟩
  obtain ⟨hconduct, hends⟩ := o.conduct_run server () ⟨true, 0, true⟩
  refine ⟨hconduct, hanswered, ?_⟩
  rcases hends _ _ _ _ rfl with ⟨_, -, ⟨fault, hmem⟩ | hnothing⟩ | ⟨hok, -⟩
  · obtain ⟨state, hreply⟩ := exists_state_of_mem_run (mem_exchanges_iff.mp hmem)
    cases hreply
  · exact hnothing
  · have hnot : run.result ≠ .ok () := by
      rw [hfailure]
      exact nofun
    exact absurd hok hnot

end VectorTable
