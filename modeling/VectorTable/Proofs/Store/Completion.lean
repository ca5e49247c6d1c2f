import VectorTable.Proofs.Database.Inner
import VectorTable.Proofs.Schema.Resolved
import VectorTable.Proofs.Store.Conduct
import VectorTable.Proofs.Store.Course

/-!
# Work that completes

What a success says about the server: every contact of the work has been answered without a fault, the statements that were built for it have been sent, and they are committed. On a connection, work executes statements that join whatever is open there; with a connection or a transaction of its own, it carries them out.
-/

namespace VectorTable

variable {α β : Type}

namespace Ledger

theorem add_nil (l : Ledger) : l.add [] = l := by
  obtain ⟨kept, pending⟩ := l
  cases pending <;> simp [add]

theorem add_add (l : Ledger) (first rest : List Statement) :
    (l.add first).add rest = l.add (first ++ rest) := by
  obtain ⟨kept, pending⟩ := l
  cases pending <;> simp [add]

end Ledger

def AllAnswered (h : History) : Prop :=
  ∀ contact reply, (contact, reply) ∈ exchanges h → ∃ value, reply = .ok value

theorem AllAnswered.append {h₁ h₂ : History} (hfirst : AllAnswered h₁) (hrest : AllAnswered h₂) :
    AllAnswered (h₁ ++ h₂) := by
  intro contact reply hmem
  rw [exchanges_append] at hmem
  exact (List.mem_append.mp hmem).elim (hfirst contact reply) (hrest contact reply)

theorem allAnswered_of_exchanges_eq_nil {h : History} (hh : exchanges h = []) : AllAnswered h := by
  intro contact reply hmem
  rw [hh] at hmem
  cases hmem

theorem allAnswered_contact (contact : Contact) (value : Value) :
    AllAnswered [.contact contact (.ok value)] := by
  intro other reply hmem
  cases List.mem_singleton.mp hmem
  exact ⟨value, rfl⟩

/-- A stretch of a history in which every contact succeeds and some statements are executed, to be committed with whatever else is open. -/
structure Executed (sent : List Statement) (h : History) : Prop where
  replies : AllAnswered h
  ledger : ∀ l : Ledger, (exchanges h).foldl Ledger.after l = l.add sent

/-- A stretch of a history, outside of any scope, in which every contact succeeds and some statements are committed. -/
structure Carried (sent : List Statement) (h : History) : Prop where
  replies : AllAnswered h
  ledger : ∀ kept, (exchanges h).foldl Ledger.after ⟨kept, []⟩ = ⟨kept ++ sent, []⟩

variable {sent first rest : List Statement} {h h₁ h₂ : History}

theorem executed_of_exchanges_eq_nil (hh : exchanges h = []) : Executed [] h where
  replies := allAnswered_of_exchanges_eq_nil hh
  ledger l := by
    rw [hh, l.add_nil]
    rfl

theorem Executed.append (hfirst : Executed first h₁) (hrest : Executed rest h₂) :
    Executed (first ++ rest) (h₁ ++ h₂) where
  replies := hfirst.replies.append hrest.replies
  ledger l := by
    rw [exchanges_append, List.foldl_append, hfirst.ledger, hrest.ledger, l.add_add]

theorem carried_of_exchanges_eq_nil (hh : exchanges h = []) : Carried [] h where
  replies := allAnswered_of_exchanges_eq_nil hh
  ledger kept := by
    rw [hh, List.append_nil]
    rfl

theorem Carried.append (hfirst : Carried first h₁) (hrest : Carried rest h₂) :
    Carried (first ++ rest) (h₁ ++ h₂) where
  replies := hfirst.replies.append hrest.replies
  ledger kept := by
    rw [exchanges_append, List.foldl_append, hfirst.ledger, hrest.ledger, List.append_assoc]

theorem Carried.congr (hcarried : Carried sent h₁) (hh : exchanges h₂ = exchanges h₁) :
    Carried sent h₂ where
  replies := by
    rw [AllAnswered, hh]
    exact hcarried.replies
  ledger := by
    rw [hh]
    exact hcarried.ledger

theorem Executed.withConnection (hexecuted : Executed sent h) (acquired released : Value) :
    Carried sent
      (.contact .acquire (.ok acquired) :: h ++ [.contact .release (.ok released)]) where
  replies :=
    ((allAnswered_contact _ _).append hexecuted.replies).append (allAnswered_contact _ _)
  ledger kept := by
    have hstart : (Ledger.mk kept []).after (.acquire, .ok acquired) = ⟨kept, []⟩ := rfl
    rw [List.cons_append, exchanges_contact, exchanges_append, List.foldl_cons, List.foldl_append,
      hstart, hexecuted.ledger]
    rfl

theorem Executed.inTransaction (hexecuted : Executed sent h)
    (acquired entered completed released : Value) :
    Carried sent (.contact .acquire (.ok acquired) ::
      .contact (.enter .transaction) (.ok entered) :: h ++
        [.contact (.complete .transaction) (.ok completed), .contact .release (.ok released)]) where
  replies := by
    have hstart : AllAnswered [.contact .acquire (.ok acquired),
        .contact (.enter .transaction) (.ok entered)] :=
      (allAnswered_contact _ _).append (allAnswered_contact _ _)
    have hend : AllAnswered [.contact (.complete .transaction) (.ok completed),
        .contact .release (.ok released)] :=
      (allAnswered_contact _ _).append (allAnswered_contact _ _)
    exact (hstart.append hexecuted.replies).append hend
  ledger kept := by
    have hstart : ((Ledger.mk kept []).after (.acquire, .ok acquired)).after
        (.enter .transaction, .ok entered) = ⟨kept, [[]]⟩ := rfl
    simp only [List.cons_append, exchanges_contact, exchanges_append, List.foldl_cons,
      List.foldl_append, hstart, hexecuted.ledger]
    rfl

namespace Program

/-! ### Work on a connection -/

/-- Work on a connection that leaves the pool alone and has executed some statements if it succeeds. -/
structure Executes (sent : List Statement) (p : Program α) : Prop where
  inner : IsInner p
  executed : ∀ m h a, Path p m h (.ok a) → Executed sent h

theorem executes_pure (a : α) : Executes [] (pure a : Program α) where
  inner := .done _
  executed m h b hpath := by
    obtain ⟨rfl, -⟩ := path_done_iff.mp hpath
    exact executed_of_exchanges_eq_nil rfl

theorem executes_contact_statement (s : Statement) : Executes [s] (contact (.statement s)) where
  inner := isInner_contact rfl
  executed m h a hpath := by
    rw [eq_of_path_contact_ok hpath]
    exact ⟨allAnswered_contact _ a, fun _ => rfl⟩

theorem Executes.bind {p : Program α} {f : α → Program β} (hp : Executes first p)
    (hf : ∀ a, Executes rest (f a)) : Executes (first ++ rest) (p >>= f) where
  inner := hp.inner.bind fun a => (hf a).inner
  executed m h b hpath := by
    obtain ⟨h₁, h₂, a, rfl, hfirst, hrest⟩ := path_bind_ok_iff.mp hpath
    exact (hp.executed _ _ _ hfirst).append ((hf a).executed _ _ _ hrest)

/-! ### Work with a connection of its own -/

/-- Work that leaves the pool alone and, if it succeeds, has carried out the statements that were built for it. -/
structure Completes (built : Except Failure (List Statement)) (p : Program α) : Prop where
  inner : IsInner p
  carried : ∀ m h a, Path p m h (.ok a) → ∃ sent, built = .ok sent ∧ Carried sent h

theorem Executes.withConnection {work : Program α} (hwork : Executes sent work) :
    Completes (.ok sent) (withConnection work) where
  inner := hwork.inner.withConnection
  carried m h a hpath := by
    rcases path_withConnection hpath with ⟨-, -, heq⟩ | ⟨_, -, heq⟩ |
      ⟨acquired, hw, result, released, hinner, rfl, heq⟩
    · cases heq
    · cases heq
    · cases released <;> cases heq
      exact ⟨sent, rfl, (hwork.executed _ _ _ hinner).withConnection acquired _⟩

theorem Executes.inTransaction {work : Program α} (hwork : Executes sent work) :
    Completes (.ok sent) (inTransaction work) where
  inner := hwork.inner.inTransaction
  carried m h a hpath := by
    rcases path_inTransaction hpath with ⟨-, -, heq⟩ | ⟨_, -, heq⟩ | ⟨_, _, reply, -, heq⟩ |
      ⟨acquired, entered, hw, result, closed, released, hinner, rfl, heq⟩
    · cases heq
    · cases heq
    · cases reply <;> cases heq
    · cases released <;> cases closed <;> cases heq
      exact ⟨sent, rfl, (hwork.executed _ _ _ hinner).inTransaction acquired entered _ _⟩

theorem Completes.ofExcept_bind {x : Except Failure α} {f : α → Program β}
    {g : α → Except Failure (List Statement)} (hf : ∀ a, Completes (g a) (f a)) :
    Completes (x >>= g) (ofExcept x >>= f) where
  inner := (IsInner.done x).bind fun a => (hf a).inner
  carried m h b hpath := by
    obtain ⟨a, rfl, hrest⟩ := path_ofExcept_bind_ok_iff.mp hpath
    exact (hf a).carried _ _ _ hrest

/-- What comes after the work may look and note, and it may fail. -/
theorem Completes.bind_silent {built : Except Failure (List Statement)} {p : Program α}
    {f : α → Program β} (hp : Completes built p) (hinner : ∀ a, IsInner (f a))
    (hsilent : ∀ a, IsSilent (f a)) : Completes built (p >>= f) where
  inner := hp.inner.bind hinner
  carried m h b hpath := by
    obtain ⟨h₁, h₂, a, rfl, hfirst, hrest⟩ := path_bind_ok_iff.mp hpath
    obtain ⟨sent, hbuilt, hcarried⟩ := hp.carried _ _ _ hfirst
    have hmore := hcarried.append (carried_of_exchanges_eq_nil (hsilent a _ _ _ hrest))
    rw [List.append_nil] at hmore
    exact ⟨sent, hbuilt, hmore⟩

theorem Completes.silent_bind {built : Except Failure (List Statement)} {p : Program α}
    {f : α → Program β} (hinner : IsInner p) (hsilent : IsSilent p)
    (hf : ∀ a, Completes built (f a)) : Completes built (p >>= f) where
  inner := hinner.bind fun a => (hf a).inner
  carried m h b hpath := by
    obtain ⟨h₁, h₂, a, rfl, hfirst, hrest⟩ := path_bind_ok_iff.mp hpath
    obtain ⟨sent, hbuilt, hcarried⟩ := (hf a).carried _ _ _ hrest
    exact ⟨sent, hbuilt, (carried_of_exchanges_eq_nil (hsilent _ _ _ hfirst)).append hcarried⟩

theorem Completes.accountFor {built : Except Failure (List Statement)} {work : Program α}
    {table operation : String} (hwork : Completes built work) :
    Completes built (accountFor table operation work) where
  inner := hwork.inner.accountFor
  carried m h a hpath := by
    obtain ⟨result, hinner, hsame⟩ := path_accountFor hpath
    obtain rfl := (hsame a).mpr rfl
    exact hwork.carried _ _ _ hinner

theorem isInner_inSpan {name : String} {attributes : Attributes} {work : Program α}
    (hwork : IsInner work) : IsInner (inSpan name attributes work) := by
  refine (isInner_note rfl).bind fun _ => hwork.settle fun result => ?_
  cases result with
  | ok a => exact (isInner_note rfl).bind fun _ => .done _
  | error failure => exact (isInner_note rfl).bind fun _ => .done _

end Program

open Program

/-! ### The operations of a store -/

namespace Store

variable (s : Store)

theorem isInner_operation {name : String} {attributes : Attributes} {work : Program α}
    (hwork : IsInner work) : IsInner (s.operation name attributes work) := by
  refine (isInner_inSpan (hwork.settle fun result => ?_)).bind fun _ =>
    (isInner_note rfl).bind fun _ => .done _
  split
  · split
    · exact (isInner_note rfl).bind fun _ => (isInner_log _).bind fun _ => .done _
    · exact .done _
  · exact .done _

theorem completes_operation {built : Except Failure (List Statement)} {name : String}
    {attributes : Attributes} {work : Program α} (hwork : Completes built work) :
    Completes built (s.operation name attributes work) where
  inner := s.isInner_operation hwork.inner
  carried m h a hpath := by
    obtain ⟨hw, result, hinner, heq, hsame, -⟩ := exists_path_of_operation hpath
    cases result with
    | error failure => cases heq
    | ok b =>
      obtain ⟨sent, hbuilt, hcarried⟩ := hwork.carried _ _ _ hinner
      exact ⟨sent, hbuilt, hcarried.congr hsame⟩

theorem isInner_recordRowsDeleted (amount : Value) : IsInner (recordRowsDeleted amount) :=
  (IsInner.done _).bind fun _ => isInner_note rfl

theorem completes_removeAll (ids : Value) :
    Completes (s.removeAllStatements ids) (s.removeAll ids) := by
  refine .ofExcept_bind fun query => .ofExcept_bind fun count => ?_
  refine (s.completes_operation (executes_contact_statement _).inTransaction).bind_silent
    (fun status => ?_) fun status => ?_
  · exact (isInner_recordRowsDeleted _).bind fun _ => (isInner_log _).bind fun _ => .done _
  · exact (isSilent_recordRowsDeleted _).bind fun _ => (isSilent_note _).bind fun _ =>
      isSilent_pure _

theorem executes_indexStatements (index : IndexDefinition) (name : Option String)
    (concurrently : Bool) :
    Executes (s.applyIndexStatements index name concurrently) (do
      if index.method.needsExtension then
        let _ ← Program.statement .execute indexExtensionStatement [] none
      Program.statement .execute
        (Sql.render (s.createIndexPieces index (s.indexName name) concurrently)) [] none) := by
  rw [applyIndexStatements]
  split
  · exact (executes_contact_statement _).bind fun _ => executes_contact_statement _
  · exact executes_contact_statement _

theorem isInner_warnDistance (index : IndexDefinition) : IsInner (s.warnDistance index) := by
  rw [warnDistance]
  split
  · exact .done _
  · exact isInner_log _

theorem completes_applyIndex (index : IndexDefinition) (name : Option String)
    (concurrently : Bool) :
    Completes (.ok (s.applyIndexStatements index name concurrently))
      (s.applyIndex index name concurrently) := by
  have hsilent : IsSilent (s.warnDistance index) := fun _ _ _ hpath =>
    (s.path_warnDistance hpath).1.contacts
  refine .silent_bind (s.isInner_warnDistance index) hsilent fun _ => ?_
  have hwork := (s.executes_indexStatements index name concurrently).withConnection
  exact (s.completes_operation hwork).bind_silent (fun _ => (isInner_log _).bind fun _ => .done _)
    fun _ => (isSilent_note _).bind fun _ => isSilent_pure _

theorem completes_dropIndex (name : Option String) :
    Completes (.ok [plainStatement (Sql.render (s.dropIndexPieces (s.indexName name)))])
      (s.dropIndex name) :=
  (s.completes_operation (executes_contact_statement _).withConnection).bind_silent
    (fun _ => isInner_log _) fun _ => isSilent_note _

end Store

theorem TableSetup.executes_executeAll (statements : List String) :
    Executes (statements.map plainStatement) (executeAll statements) := by
  induction statements with
  | nil => exact executes_pure ()
  | cons sql statements ih => exact (executes_contact_statement _).bind fun _ => ih

theorem TableSetup.completes_create (schema : Schema) (size : Value)
    (overwrite storeMetadata : Bool) :
    Completes (do
        let pieces ← schema.createTable size storeMetadata
        return (statements schema pieces overwrite).map plainStatement)
      (create schema size overwrite storeMetadata) :=
  .ofExcept_bind fun _ => (executes_executeAll _).inTransaction.accountFor.bind_silent
    (fun _ => isInner_log _) fun _ => isSilent_note _

namespace Database

theorem completes_run (kind : StatementKind) (sql : String) (args : List Value) :
    Completes (.ok [⟨kind, sql, [args], none⟩]) (run kind sql args) :=
  (executes_contact_statement _).withConnection

end Database

/-! ### Opening a store -/

namespace Store

/-- The statement that asks for the columns of the table of a schema. -/
def introspection (schema : Schema) : Statement :=
  ⟨.fetch, columnsQuery, [[.text schema.table, .text schema.schema]], none⟩

theorem isInner_create (schema : Schema) (ignored : Option (List String)) (distance : Distance)
    (tuning : Option Tuning) (settings : Except Failure Setting.Store) :
    IsInner (create schema ignored distance tuning settings) := by
  have hcollect : IsInner collectMetrics := by
    refine .look fun m => ?_
    split
    · exact .done _
    · exact (isInner_note rfl).bind fun _ => isInner_log _
  rw [create]
  split
  · exact .done _
  · refine (Database.isInner_run _ _ _).accountFor.bind fun _ => (IsInner.done _).bind fun _ =>
      (isInner_log _).bind fun _ => (IsInner.done _).bind fun _ => hcollect.bind fun _ => .done _

theorem toDraft_of_resolve {schema resolved : Schema} {columns : TableColumns}
    {ignored : Option (List String)} (h : schema.resolve columns ignored = .ok resolved) :
    ∃ metadata json, resolved.toDraft =
      { schema.toDraft with metadataColumns := metadata, jsonColumn := json } := by
  obtain ⟨-, -, typed, -, hdraft⟩ := schema.resolve_eq_ok_iff.mp h
  have hresolved := Schema.ofDraft_eq_ok_iff.mp hdraft
  exact ⟨_, _, hresolved⟩

theorem resolveRows_eq_ok_iff {schema resolved : Schema} {ignored : Option (List String)}
    {answer : Value} :
    resolveRows schema ignored answer = .ok resolved ↔
      answer.truthy = true ∧ ∃ rows columns, answer.items = .ok rows ∧
        tableColumns rows = .ok columns ∧ schema.resolve columns ignored = .ok resolved := by
  rw [resolveRows]
  cases answer.truthy with
  | false => simp
  | true =>
    refine bind_eq_ok_iff.trans ⟨?_, ?_⟩
    · rintro ⟨rows, hrows, h⟩
      obtain ⟨columns, hcolumns, h⟩ := bind_eq_ok_iff.mp h
      exact ⟨rfl, rows, columns, hrows, hcolumns, h⟩
    · rintro ⟨-, rows, columns, hrows, hcolumns, h⟩
      exact ⟨rows, hrows, bind_eq_ok_iff.mpr ⟨columns, hcolumns, h⟩⟩

theorem toDraft_of_resolveRows {schema resolved : Schema} {ignored : Option (List String)}
    {answer : Value} (h : resolveRows schema ignored answer = .ok resolved) :
    ∃ metadata json, resolved.toDraft =
      { schema.toDraft with metadataColumns := metadata, jsonColumn := json } := by
  obtain ⟨-, _, _, -, -, hresolve⟩ := resolveRows_eq_ok_iff.mp h
  exact toDraft_of_resolve hresolve

/-- A store that has been opened has a schema that fits what the database answered, and nothing is asked besides. -/
theorem exists_path_introspect {schema : Schema} {ignored : Option (List String)}
    {distance : Distance} {tuning : Option Tuning} {settings : Except Failure Setting.Store}
    {m : Memory} {h : History} {store : Store}
    (hpath : Path (create schema ignored distance tuning settings) m h (.ok store)) :
    ∃ h₁ h₂ answer, h = h₁ ++ h₂ ∧ Path (introspect schema) m h₁ (.ok answer) ∧
      exchanges h₂ = [] ∧ resolveRows schema ignored answer = .ok store.schema ∧
      settings = .ok store.settings := by
  rw [create] at hpath
  split at hpath
  · cases (path_done_iff.mp hpath).2
  obtain ⟨h₁, h₂, answer, rfl, hasked, hrest⟩ := path_bind_ok_iff.mp hpath
  obtain ⟨resolved, hresolved, hlogged⟩ := path_ofExcept_bind_ok_iff.mp hrest
  obtain ⟨rest, rfl, hmade⟩ := path_tell_iff.mp hlogged
  obtain ⟨loaded, hloaded, hmeasured⟩ := path_ofExcept_bind_ok_iff.mp hmade
  obtain ⟨h₃, h₄, _, rfl, hcollect, hlast⟩ := path_bind_ok_iff.mp hmeasured
  obtain ⟨rfl, heq⟩ := path_done_iff.mp hlast
  cases heq
  refine ⟨h₁, _, answer, rfl, hasked, ?_, hresolved, hloaded⟩
  simp [isSilent_collectMetrics _ _ _ hcollect]

/-- A store that has been opened has the table that was asked for, and the settings that were read. -/
theorem path_create_ok {schema : Schema} {ignored : Option (List String)} {distance : Distance}
    {tuning : Option Tuning} {settings : Except Failure Setting.Store} {m : Memory} {h : History}
    {store : Store} (hpath : Path (create schema ignored distance tuning settings) m h (.ok store)) :
    Carried [introspection schema] h ∧ settings = .ok store.settings ∧
      ∃ metadata json, store.schema.toDraft =
        { schema.toDraft with metadataColumns := metadata, jsonColumn := json } := by
  obtain ⟨h₁, h₂, answer, rfl, hasked, hsilent, hresolved, hsettings⟩ :=
    exists_path_introspect hpath
  obtain ⟨sent, hsent, hcarried⟩ :=
    (Database.completes_run _ _ _).accountFor.carried _ _ _ hasked
  cases hsent
  refine ⟨hcarried.congr ?_, hsettings, toDraft_of_resolveRows hresolved⟩
  rw [exchanges_append, hsilent, List.append_nil]

end Store

end VectorTable
