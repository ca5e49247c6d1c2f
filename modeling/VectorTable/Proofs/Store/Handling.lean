import VectorTable.Proofs.Failure.Local
import VectorTable.Proofs.Program.InFlight
import VectorTable.Proofs.Store.Completion

/-!
# What becomes of faults

A call on a table, and the opening of a store, deal with faults of the server in one way. The fault that is in flight when the connection has been given back reaches the caller: if it comes from the database or the way to it, as a failure of the operation on the table, with the fault as its cause; any other fault, and the want of a connection, as it is. Nothing else is ever received as a failure of an operation, and what has been lost on the way because another fault took its place is received by nobody.
-/

namespace VectorTable

open Program

/-- The failure that a caller receives for a fault. -/
def Site.received (site : Site) (fault : Fault) : Failure :=
  if fault.isDatabase then .execution site.table site.operation fault else .fault fault

theorem Site.received_eq_execution_iff {site : Site} {fault cause : Fault}
    {table operation : String} : site.received fault = .execution table operation cause ↔
      table = site.table ∧ operation = site.operation ∧ cause = fault ∧
        fault.isDatabase = true := by
  rw [received]
  cases fault.isDatabase with
  | false => simp
  | true => simp [eq_comm]

theorem Site.received_eq_fault_iff {site : Site} {fault cause : Fault} :
    site.received fault = .fault cause ↔ cause = fault ∧ fault.isDatabase = false := by
  rw [received]
  cases fault.isDatabase with
  | false => simp [eq_comm]
  | true => simp

theorem Site.received_ne_notConnected (site : Site) (fault : Fault) :
    site.received fault ≠ .notConnected := by
  rw [received]
  split <;> exact nofun

/-! ### What comes after the work -/

section Locally

variable {α β : Type}

/-- Programs that do not contact the server, and in whose failures it has no part. -/
structure EndsLocally (p : Program α) : Prop where
  silent : IsSilent p
  failures : ∀ m h r, Path p m h r → FailsLocally r

theorem endsLocally_ofExcept {x : Except Failure α} (hx : FailsLocally x) :
    EndsLocally (ofExcept x) where
  silent := isSilent_ofExcept x
  failures m h r hpath := by
    obtain ⟨-, rfl⟩ := path_done_iff.mp hpath
    exact hx

theorem IsAftermath.endsLocally {p : Program α} (hp : IsAftermath p) : EndsLocally p where
  silent m h r hpath := (hp m h r hpath).1
  failures m h r hpath := (hp m h r hpath).2.2.failsLocally

theorem EndsLocally.bind {p : Program α} {f : α → Program β} (hp : EndsLocally p)
    (hf : ∀ a, EndsLocally (f a)) : EndsLocally (p >>= f) where
  silent := hp.silent.bind fun a => (hf a).silent
  failures m h r hpath := by
    rcases path_bind_iff.mp hpath with ⟨failure, hfirst, rfl⟩ | ⟨h₁, h₂, a, rfl, -, hrest⟩
    · exact failsLocally_error (hp.failures _ _ _ hfirst failure rfl)
    · exact (hf a).failures _ _ _ hrest

theorem endsLocally_collectMetrics : EndsLocally collectMetrics where
  silent := isSilent_collectMetrics
  failures m h r hpath := by
    have hinner := path_look_iff.mp hpath
    split at hinner
    · obtain ⟨-, rfl⟩ := path_done_iff.mp hinner
      exact failsLocally_ok ()
    · obtain ⟨_, -, hlog⟩ := path_tell_iff.mp hinner
      obtain ⟨_, -, hdone⟩ := path_tell_iff.mp hlog
      obtain ⟨-, rfl⟩ := path_done_iff.mp hdone
      exact failsLocally_ok ()

end Locally

/-! ### Accounting for faults -/

section Received

variable {α : Type} {work : Program α}

theorem failure?_mapError (f : Failure → Failure) (r : Except Failure α) :
    failure? (r.mapError f) = (failure? r).map f := by
  cases r <;> rfl

theorem Store.needsConnection_operation (s : Store) {name : String} {attributes : Attributes}
    (hwork : NeedsConnection .fault work) :
    NeedsConnection (Site.received ⟨s.table, name⟩) (s.operation name attributes work) where
  unconnected m h r hpath hconnected := by
    obtain ⟨hw, result, hinner, rfl, hsame, -⟩ := exists_path_of_operation hpath
    obtain ⟨hsilent, rfl⟩ := hwork.unconnected _ _ _ hinner hconnected
    exact ⟨hsame.trans hsilent, rfl⟩
  connected m h r hpath hconnected := by
    obtain ⟨hw, result, hinner, rfl, hsame, -⟩ := exists_path_of_operation hpath
    rw [failure?_mapError, hwork.connected _ _ _ hinner hconnected, hsame, Option.map_map]
    rfl

theorem needsConnection_accountFor {table operation : String}
    (hwork : NeedsConnection .fault work) :
    NeedsConnection (Site.received ⟨table, operation⟩) (accountFor table operation work) where
  unconnected m h r hpath hconnected := by
    obtain ⟨result, hinner, rfl⟩ := path_accountFor_eq hpath
    obtain ⟨hsilent, rfl⟩ := hwork.unconnected _ _ _ hinner hconnected
    exact ⟨hsilent, rfl⟩
  connected m h r hpath hconnected := by
    obtain ⟨result, hinner, rfl⟩ := path_accountFor_eq hpath
    rw [failure?_mapError, hwork.connected _ _ _ hinner hconnected, Option.map_map]
    rfl

end Received

/-! ### Handling -/

/-- How a call ends that builds some statements: it is refused, or there is nothing to do; or it needs a connection and lacks one; or a fault is in flight at the end, which is received; or none is, and the server has no part in what else may go wrong. -/
inductive Handling (received : Fault → Failure) (built : Except Failure (List Statement))
    (connected : Bool) : History → Option Failure → Prop
  | refused {failure : Failure} {h : History} (hbuilt : built = .error failure)
    (hsilent : exchanges h = []) : Handling received built connected h (some failure)
  | idle {h : History} (hbuilt : built = .ok []) (hsilent : exchanges h = []) :
    Handling received built connected h none
  | unconnected {sent : List Statement} {h : History} (hbuilt : built = .ok sent)
    (hconnected : connected = false) (hsilent : exchanges h = []) :
    Handling received built connected h (some .notConnected)
  | struck {sent : List Statement} {h : History} {fault : Fault} (hbuilt : built = .ok sent)
    (hconnected : connected = true) (hfault : inFlight (exchanges h) = some fault) :
    Handling received built connected h (some (received fault))
  | unharmed {sent : List Statement} {h : History} {ending : Option Failure}
    (hbuilt : built = .ok sent) (hconnected : connected = true)
    (hfault : inFlight (exchanges h) = none)
    (hlocal : ∀ failure ∈ ending, failure.isLocal = true) :
    Handling received built connected h ending

section Handles

variable {α β : Type} {received : Fault → Failure} {m : Memory}
  {built : Except Failure (List Statement)} {sent : List Statement}

theorem Handling.silent_append {connected : Bool} {first h : History} {ending : Option Failure}
    (hfirst : exchanges first = []) (hhandling : Handling received built connected h ending) :
    Handling received built connected (first ++ h) ending := by
  have hsame : exchanges (first ++ h) = exchanges h := by rw [exchanges_append, hfirst]; rfl
  cases hhandling with
  | refused hbuilt hsilent => exact .refused hbuilt (hsame.trans hsilent)
  | idle hbuilt hsilent => exact .idle hbuilt (hsame.trans hsilent)
  | unconnected hbuilt hconnected hsilent =>
    exact .unconnected hbuilt hconnected (hsame.trans hsilent)
  | struck hbuilt hconnected hfault => exact .struck hbuilt hconnected (hsame ▸ hfault)
  | unharmed hbuilt hconnected hfault hlocal =>
    exact .unharmed hbuilt hconnected (hsame ▸ hfault) hlocal

/-! ### What the ending says -/

section Ending

variable {connected : Bool} {h : History} {ending : Option Failure} {fault : Fault}
  {failure : Failure}

theorem Handling.of_inFlight (hhandling : Handling received built connected h ending)
    (hfault : inFlight (exchanges h) = some fault) : ending = some (received fault) := by
  cases hhandling with
  | refused _ hsilent | idle _ hsilent | unconnected _ _ hsilent =>
    rw [hsilent] at hfault
    cases hfault
  | struck _ _ hstruck =>
    rw [hstruck] at hfault
    cases hfault
    rfl
  | unharmed _ _ hnone =>
    rw [hnone] at hfault
    cases hfault

/-- A failure in which the server has a part is the want of a connection, or the fault in flight as it is received. -/
theorem Handling.of_not_isLocal (hhandling : Handling received built connected h (some failure))
    (hbuilding : FailsLocally built) (hfailure : failure.isLocal = false) :
    (connected = false ∧ failure = .notConnected) ∨
      ∃ fault, inFlight (exchanges h) = some fault ∧ failure = received fault := by
  cases hhandling with
  | refused hbuilt =>
    rw [hbuilding failure hbuilt] at hfailure
    cases hfailure
  | unconnected _ hconnected => exact .inl ⟨hconnected, rfl⟩
  | struck _ _ hfault => exact .inr ⟨_, hfault, rfl⟩
  | unharmed _ _ _ hlocal =>
    rw [hlocal failure rfl] at hfailure
    cases hfailure

theorem Handling.of_unconnected (hhandling : Handling received built false h ending) :
    exchanges h = [] ∧ ∀ first rest, built = .ok (first :: rest) →
      ending = some .notConnected := by
  cases hhandling with
  | refused hbuilt hsilent | idle hbuilt hsilent =>
    refine ⟨hsilent, fun first rest hsome => ?_⟩
    rw [hbuilt] at hsome
    cases hsome
  | unconnected _ _ hsilent => exact ⟨hsilent, fun _ _ _ => rfl⟩
  | struck _ hconnected | unharmed _ hconnected => cases hconnected

end Ending

/-! ### Programs that handle faults -/

def Handles (received : Fault → Failure) (m : Memory) (built : Except Failure (List Statement))
    (p : Program α) : Prop :=
  ∀ h r, Path p m h r → Handling received built m.connected h (failure? r)

theorem handles_fail (failure : Failure) :
    Handles received m (.error failure) (fail failure : Program α) := by
  intro h r hpath
  obtain ⟨rfl, rfl⟩ := path_done_iff.mp hpath
  exact .refused rfl rfl

theorem handles_pure (a : α) : Handles received m (.ok []) (pure a) := by
  intro h r hpath
  obtain ⟨rfl, rfl⟩ := path_done_iff.mp hpath
  exact .idle rfl rfl

/-- A step of building leaves the connection alone, and the call goes on with what it gives. -/
theorem handles_bind {p : Program α} {x : Except Failure α} {f : α → Program β}
    {g : α → Except Failure (List Statement)} (hinner : IsInner p)
    (hp : ∀ h r, Path p m h r → IsUntouched h ∧ r = x)
    (hf : ∀ a m', Handles received m' (g a) (f a)) : Handles received m (x >>= g) (p >>= f) := by
  intro h r hpath
  rcases path_bind_iff.mp hpath with ⟨failure, hfirst, rfl⟩ | ⟨h₁, h₂, a, rfl, hfirst, hrest⟩
  · obtain ⟨huntouched, rfl⟩ := hp _ _ hfirst
    exact .refused rfl huntouched.contacts
  · obtain ⟨huntouched, rfl⟩ := hp _ _ hfirst
    have hrest := hf a _ _ _ hrest
    rw [Memory.connected_afterAll (hinner.isInner_of_mem hfirst)] at hrest
    exact hrest.silent_append huntouched.contacts

theorem handles_ofExcept_bind {x : Except Failure α} {f : α → Program β}
    {g : α → Except Failure (List Statement)} (hf : ∀ a m', Handles received m' (g a) (f a)) :
    Handles received m (x >>= g) (ofExcept x >>= f) := by
  refine handles_bind (.done x) (fun h r hpath => ?_) hf
  obtain ⟨rfl, rfl⟩ := path_done_iff.mp hpath
  exact ⟨isUntouched_nil, rfl⟩

theorem Handles.bind_pure {p : Program α} (hp : Handles received m built p) (f : α → β) :
    Handles received m built (p >>= fun a => pure (f a)) := by
  intro h r hpath
  obtain ⟨result, hinner, rfl⟩ := path_bind_pure_iff.mp hpath
  have hsame : failure? (f <$> result) = failure? result := by cases result <;> rfl
  rw [hsame]
  exact hp _ _ hinner

theorem Program.NeedsConnection.handles_bind {p : Program α} {f : α → Program β}
    (hp : NeedsConnection received p) (hf : ∀ a, EndsLocally (f a)) :
    Handles received m (.ok sent) (p >>= f) := by
  intro h r hpath
  cases hconnected : m.connected with
  | false =>
    rcases path_bind_iff.mp hpath with ⟨failure, hfirst, rfl⟩ | ⟨h₁, h₂, a, rfl, hfirst, -⟩
    · obtain ⟨hsilent, heq⟩ := hp.unconnected _ _ _ hfirst hconnected
      cases heq
      exact .unconnected rfl rfl hsilent
    · cases (hp.unconnected _ _ _ hfirst hconnected).2
  | true =>
    rcases path_bind_iff.mp hpath with ⟨failure, hfirst, rfl⟩ | ⟨h₁, h₂, a, rfl, hfirst, hrest⟩
    · have hfailure := hp.connected _ _ _ hfirst hconnected
      obtain ⟨fault, hfault, rfl⟩ := Option.map_eq_some_iff.mp hfailure.symm
      exact .struck rfl rfl hfault
    · have hnone := Option.map_eq_none_iff.mp (hp.connected _ _ _ hfirst hconnected).symm
      have hsilent := (hf a).silent _ _ _ hrest
      refine .unharmed rfl rfl ?_ fun failure hfailure => ?_
      · rw [exchanges_append, hsilent, List.append_nil, hnone]
      · exact (hf a).failures _ _ _ hrest failure (failure?_eq_some_iff.mp hfailure)

end Handles

/-! ### Building without a connection -/

theorem isInner_freshId : IsInner freshId := .look fun _ => .tell rfl (.done _)

theorem isInner_freshIds {β : Type} (items : List β) : IsInner (freshIds items) := by
  induction items with
  | nil => exact .done _
  | cons item items ih => exact isInner_freshId.bind fun _ => ih.bind fun _ => .done _

theorem Schema.isInner_rowsNoted (s : Schema) (records : List Record) :
    IsInner (s.rowsNoted records) := by
  induction records with
  | nil => exact .done _
  | cons record records ih =>
    have hnote : IsInner (s.noteDropped record) := by
      rw [noteDropped]
      split
      · exact .done _
      · exact isInner_log _
    exact (IsInner.done _).bind fun row => hnote.bind fun _ => ih.bind fun _ => .done _

namespace Store

theorem Insertion.isInner_chooseIds (insertion : Insertion) : IsInner insertion.chooseIds := by
  rw [chooseIds]
  split
  · exact .done _
  · exact isInner_freshIds _

theorem isInner_chooseId (id : Value) : IsInner (chooseId id) := by
  rw [chooseId]
  split
  · exact .done _
  · exact isInner_freshId.bind fun _ => .done _

/-! ### Each call -/

variable (s : Store) (m : Memory)

theorem handles_insertRecords (records : List Record) :
    Handles (Site.received ⟨s.table, "add_all"⟩) m
      (do return s.insertStatements (← records.mapM s.schema.row)) (s.insertRecords records) := by
  refine handles_bind (s.schema.isInner_rowsNoted records) (fun h r hpath => ?_) fun rows m' => ?_
  · exact ⟨Schema.isUntouched_of_rowsNoted hpath, (Schema.path_rowsNoted hpath).2⟩
  · have hwork := (isBracketed_sendChunks (Sql.render s.schema.insertPieces) s.timeout
      (chunksOf s.settings.batchRows rows)).failsInFlight
    exact (s.needsConnection_operation hwork.inTransaction).handles_bind fun _ =>
      ((isAftermath_note rfl).bind fun _ => isAftermath_note rfl).endsLocally

theorem handles_addAll (insertion : Insertion) :
    Handles (Site.received ⟨s.table, "add_all"⟩) m (s.addAllStatements insertion
      (insertion.ids.getD (issuedIds m.issued insertion.embeddings))) (s.addAll insertion) := by
  rw [addAll_eq]
  refine handles_bind (g := s.addAllStatements insertion) insertion.isInner_chooseIds
    (fun _ _ => insertion.path_chooseIds_issued) fun ids m' => ?_
  rw [addAllStatements]
  split
  · split
    · exact handles_pure []
    · exact handles_ofExcept_bind fun records m' =>
        (s.handles_insertRecords m' records).bind_pure fun _ => ids
  · exact handles_fail _

theorem handles_add (embedding : Value) (text : Option String) (metadata : List (String × Value))
    (id : Value) :
    Handles (Site.received ⟨s.table, "add_all"⟩) m (s.addAllStatements ⟨[embedding], some [text],
      some [metadata], some [idOrIssued id m.issued]⟩ [idOrIssued id m.issued])
      (s.add embedding text metadata id) := by
  rw [add_eq]
  exact handles_bind
    (g := fun id => s.addAllStatements ⟨[embedding], some [text], some [metadata], some [id]⟩ [id])
    (isInner_chooseId id) (fun _ _ => path_chooseId)
    fun id m' => (s.handles_addAll m' _).bind_pure fun _ => id

theorem handles_search (request : SearchRequest) :
    Handles (Site.received ⟨s.table, "search"⟩) m (s.searchStatements request)
      (s.search request) := by
  refine handles_ofExcept_bind fun query m' => ?_
  have hwork := (isBracketed_tuneAll (s := s) (Tuning.statements s.tuning)).bind fun _ =>
    isBracketed_statement .fetch query.sql [query.args] s.timeout
  exact (s.needsConnection_operation hwork.failsInFlight.inTransaction).handles_bind fun answer =>
    (s.isAftermath_search request answer).endsLocally

theorem handles_getByIds (ids : Value) :
    Handles (Site.received ⟨s.table, "get_by_ids"⟩) m (s.getByIdsStatements ids)
      (s.getByIds ids) := by
  rw [getByIds, getByIdsStatements]
  split
  · exact handles_pure []
  · refine handles_ofExcept_bind fun query m' => handles_ofExcept_bind fun count m' => ?_
    have hwork := isBracketed_statement .fetch query.sql [query.args] s.timeout
    exact (s.needsConnection_operation hwork.failsInFlight.withConnection).handles_bind
      fun answer => (s.isAftermath_getByIds answer).endsLocally

theorem handles_removeAll (ids : Value) :
    Handles (Site.received ⟨s.table, "remove_all"⟩) m (s.removeAllStatements ids)
      (s.removeAll ids) := by
  refine handles_ofExcept_bind fun query m' => handles_ofExcept_bind fun count m' => ?_
  have hwork := isBracketed_statement .execute query.sql [query.args] s.timeout
  exact (s.needsConnection_operation hwork.failsInFlight.inTransaction).handles_bind fun status =>
    (s.isAftermath_removeAll count status).endsLocally

theorem handles_applyIndex (index : IndexDefinition) (name : Option String)
    (concurrently : Bool) :
    Handles (Site.received ⟨s.table, "apply_vector_index"⟩) m
      (.ok (s.applyIndexStatements index name concurrently))
      (s.applyIndex index name concurrently) := by
  refine handles_bind (g := fun _ => .ok (s.applyIndexStatements index name concurrently))
    (s.isInner_warnDistance index) (fun _ _ => s.path_warnDistance) fun _ m' => ?_
  refine (s.needsConnection_operation (IsBracketed.failsInFlight ?_).withConnection).handles_bind
    fun _ => ((isAftermath_note rfl).bind fun _ => isAftermath_pure _).endsLocally
  split
  · exact (isBracketed_statement .execute indexExtensionStatement [[]] none).bind fun _ =>
      isBracketed_statement .execute _ [[]] none
  · exact isBracketed_statement .execute _ [[]] none

theorem handles_indexStatement {operation : String} (sql : String) {f : Value → Program Unit}
    (hafter : ∀ answer, IsAftermath (f answer)) :
    Handles (Site.received ⟨s.table, operation⟩) m (.ok [plainStatement sql])
      (s.operation operation [] (withConnection (statement .execute sql [] none)) >>= f) :=
  (s.needsConnection_operation
    (isBracketed_statement .execute sql [[]] none).failsInFlight.withConnection).handles_bind
    fun answer => (hafter answer).endsLocally

theorem handles_create (schema : Schema) (ignored : Option (List String)) (distance : Distance)
    (tuning : Option Tuning) {settings : Except Failure Setting.Store}
    (hsettings : FailsLocally settings) :
    Handles (Site.received ⟨schema.qualifiedTable, "introspect"⟩) m
      (if schema.declaresAndIgnores ignored then .error (.refused .columnsAndIgnored)
        else .ok [introspection schema])
      (create schema ignored distance tuning settings) := by
  rw [create]
  split
  · exact handles_fail _
  · have hwork := isBracketed_statement .fetch columnsQuery
      [[.text schema.table, .text schema.schema]] none
    refine (needsConnection_accountFor hwork.failsInFlight.withConnection).handles_bind
      fun answer => ?_
    apply (endsLocally_ofExcept (failsLocally_resolveRows schema ignored answer)).bind
    intro resolved
    apply (isAftermath_note rfl).endsLocally.bind
    intro _
    apply (endsLocally_ofExcept hsettings).bind
    intro loaded
    exact endsLocally_collectMetrics.bind fun _ => endsLocally_ofExcept (failsLocally_ok _)

end Store

theorem TableSetup.handles_create (schema : Schema) (size : Value)
    (overwrite storeMetadata : Bool) (m : Memory) :
    Handles (Site.received ⟨schema.qualifiedTable, "init_table"⟩) m (do
        let pieces ← schema.createTable size storeMetadata
        return (statements schema pieces overwrite).map plainStatement)
      (create schema size overwrite storeMetadata) :=
  handles_ofExcept_bind fun pieces _ =>
    (needsConnection_accountFor
      (isBracketed_executeAll (statements schema pieces overwrite)).failsInFlight.inTransaction
      ).handles_bind fun _ => (isAftermath_note rfl).endsLocally

end VectorTable
