import VectorTable.Proofs.Failure.Misfit
import VectorTable.Proofs.Program.Work
import VectorTable.Proofs.Store.Insert
import VectorTable.Store.Index
import VectorTable.Store.Read
import VectorTable.TableSetup

/-!
# The course of a call

Every call on a store builds its statements before it does anything else. If that fails, the call fails with the same failure and nobody but the log has noticed it; otherwise it sends what has been built, and from then on no argument is refused any more. A call that is an operation enters its span and is counted by the way its work ended, and what comes after the work does not change that.
-/

namespace VectorTable

open Program

/-- Histories that leave traces in the log only: the server is not contacted, no span is entered and nothing is measured. -/
structure IsUntouched (h : History) : Prop where
  contacts : exchanges h = []
  spans : ∀ name attributes, .note (.spanEntered name attributes) ∉ h
  measurements : Metric.measurements h = []

theorem isUntouched_nil : IsUntouched [] := ⟨rfl, fun _ _ => List.not_mem_nil, rfl⟩

theorem IsUntouched.append {h₁ h₂ : History} (hfirst : IsUntouched h₁) (hrest : IsUntouched h₂) :
    IsUntouched (h₁ ++ h₂) where
  contacts := by simp [hfirst.contacts, hrest.contacts]
  spans name attributes := by simp [hfirst.spans, hrest.spans]
  measurements := by simp [hfirst.measurements, hrest.measurements]

theorem isUntouched_log (entry : Log.Entry) : IsUntouched [.note (.log entry)] :=
  ⟨rfl, fun _ _ => by simp, rfl⟩

theorem isUntouched_idIssued : IsUntouched [.note .idIssued] := ⟨rfl, fun _ _ => by simp, rfl⟩

/-- Failures that are left once the statements have been built: the work fails for a fault, which is accounted for if it is one of the database, or for want of a connection, or its answer does not fit. -/
def Failure.isLate : Failure → Bool
  | execution .. | notConnected | misfit _ => true
  | fault cause => !cause.isDatabase
  | _ => false

/-- How an operation is counted that ended in some way. What does not fit is only noticed after the work has been counted, and faults from outside of the database are not counted at all. -/
def counted (name : String) : Option Failure → List (String × String)
  | none | some (.misfit _) => [(name, "success")]
  | some (.execution ..) => [(name, "error")]
  | some _ => []

/-- The course of a call that builds some statements and is counted under a name, if it is an operation: it is refused, or there is nothing to do, or it works. -/
inductive Course (built : Except Failure (List Statement)) (name? : Option String) :
    History → Option Failure → Prop
  | refused {failure : Failure} {h : History} (hbuilt : built = .error failure)
    (hh : IsUntouched h) : Course built name? h (some failure)
  | idle {h : History} (hbuilt : built = .ok []) (hh : IsUntouched h) : Course built name? h none
  | worked {sent : List Statement} {before rest : History} {ending : Option Failure}
    (hbuilt : built = .ok sent) (hbefore : IsUntouched before) (hsent : (asked rest).Sublist sent)
    (hending : ∀ failure ∈ ending, failure.isLate = true)
    (hentered : ∀ name ∈ name?, ∃ attributes,
      .note (.spanEntered ("vectorstore." ++ name) attributes) ∈ rest)
    (hcounted : Metric.operationOutcomes (Metric.measurements rest) =
      name?.toList.flatMap fun name => counted name ending) :
    Course built name? (before ++ rest) ending

/-! ### Programs that follow a course -/

section Follows

variable {α β γ : Type} {m : Memory} {name? : Option String}
  {built : Except Failure (List Statement)} {sent : List Statement}

def Follows (m : Memory) (built : Except Failure (List Statement)) (name? : Option String)
    (p : Program α) : Prop :=
  ∀ h r, Path p m h r → Course built name? h (failure? r)

theorem follows_fail (failure : Failure) :
    Follows m (.error failure) name? (fail failure : Program α) := by
  intro h r hpath
  obtain ⟨rfl, rfl⟩ := path_done_iff.mp hpath
  exact .refused rfl isUntouched_nil

theorem follows_pure (a : α) : Follows m (.ok []) name? (pure a) := by
  intro h r hpath
  obtain ⟨rfl, rfl⟩ := path_done_iff.mp hpath
  exact .idle rfl isUntouched_nil

theorem Course.untouched_append {first h : History} {ending : Option Failure}
    (hfirst : IsUntouched first) (hcourse : Course built name? h ending) :
    Course built name? (first ++ h) ending := by
  cases hcourse with
  | refused hbuilt hh => exact .refused hbuilt (hfirst.append hh)
  | idle hbuilt hh => exact .idle hbuilt (hfirst.append hh)
  | worked hbuilt hbefore hsent hending hentered hcounted =>
    rw [← List.append_assoc]
    exact .worked hbuilt (hfirst.append hbefore) hsent hending hentered hcounted

/-- A step of building leaves no trace, and the call goes on with what it gives. -/
theorem follows_bind {p : Program α} {x : Except Failure α} {f : α → Program β}
    {g : α → Except Failure (List Statement)}
    (hp : ∀ h r, Path p m h r → IsUntouched h ∧ r = x)
    (hf : ∀ a m', x = .ok a → Follows m' (g a) name? (f a)) :
    Follows m (x >>= g) name? (p >>= f) := by
  intro h r hpath
  rcases path_bind_iff.mp hpath with ⟨failure, hfirst, rfl⟩ | ⟨h₁, h₂, a, rfl, hfirst, hrest⟩
  · obtain ⟨huntouched, rfl⟩ := hp _ _ hfirst
    exact .refused rfl huntouched
  · obtain ⟨huntouched, rfl⟩ := hp _ _ hfirst
    exact (hf a _ rfl _ _ hrest).untouched_append huntouched

theorem follows_ofExcept_bind {x : Except Failure α} {f : α → Program β}
    {g : α → Except Failure (List Statement)}
    (hf : ∀ a m', x = .ok a → Follows m' (g a) name? (f a)) :
    Follows m (x >>= g) name? (ofExcept x >>= f) := by
  refine follows_bind (fun h r hpath => ?_) hf
  obtain ⟨rfl, rfl⟩ := path_done_iff.mp hpath
  exact ⟨isUntouched_nil, rfl⟩

theorem Follows.bind_pure {p : Program α} (hp : Follows m built name? p) (f : α → β) :
    Follows m built name? (p >>= fun a => pure (f a)) := by
  intro h r hpath
  rcases path_bind_iff.mp hpath with ⟨failure, hfirst, rfl⟩ | ⟨h₁, h₂, a, rfl, hfirst, hrest⟩
  · exact hp _ _ hfirst
  · obtain ⟨rfl, rfl⟩ := path_done_iff.mp hrest
    rw [List.append_nil]
    exact hp _ _ hfirst

end Follows

/-! ### What comes after the work -/

section Aftermath

variable {α β : Type}

/-- What comes after the work of an operation: no contact, no operation counted, and failures only for values that do not fit. -/
def IsAftermath (p : Program α) : Prop :=
  ∀ m h r, Path p m h r → exchanges h = [] ∧
    Metric.operationOutcomes (Metric.measurements h) = [] ∧ OnlyMisfits r

theorem isAftermath_ofExcept {result : Except Failure α} (hresult : OnlyMisfits result) :
    IsAftermath (ofExcept result) := by
  intro m h r hpath
  obtain ⟨rfl, rfl⟩ := path_done_iff.mp hpath
  exact ⟨rfl, rfl, hresult⟩

theorem isAftermath_pure (a : α) : IsAftermath (pure a : Program α) :=
  isAftermath_ofExcept (onlyMisfits_ok a)

theorem isAftermath_note {n : Note}
    (hn : Metric.operationOutcomes (Metric.measurements [.note n]) = []) :
    IsAftermath (note n) := by
  intro m h r hpath
  obtain ⟨rest, rfl, hrest⟩ := path_tell_iff.mp hpath
  obtain ⟨rfl, rfl⟩ := path_done_iff.mp hrest
  exact ⟨rfl, hn, onlyMisfits_ok ()⟩

theorem IsAftermath.bind {p : Program α} {f : α → Program β} (hp : IsAftermath p)
    (hf : ∀ a, IsAftermath (f a)) : IsAftermath (p >>= f) := by
  intro m h r hpath
  rcases path_bind_iff.mp hpath with ⟨failure, hfirst, rfl⟩ | ⟨h₁, h₂, a, rfl, hfirst, hrest⟩
  · obtain ⟨hcontacts, hcounted, hmisfits⟩ := hp _ _ _ hfirst
    refine ⟨hcontacts, hcounted, ?_⟩
    rintro _ ⟨⟩
    exact hmisfits failure rfl
  · obtain ⟨hcontacts, hcounted, -⟩ := hp _ _ _ hfirst
    obtain ⟨hcontacts', hcounted', hmisfits⟩ := hf a _ _ _ hrest
    exact ⟨by simp [hcontacts, hcontacts'], by simp [hcounted, hcounted'], hmisfits⟩

end Aftermath

/-! ### Work -/

section Block

variable {α β : Type} {m : Memory} {h : History} {r : Except Failure α} {sent : List Statement}
  {work : Program α} {s : Store}

/-- Work that is accounted for as an operation is counted by its result. -/
theorem path_operation_of_works {name : String} {attributes : Attributes}
    (hwork : Works sent work) (hpath : Path (s.operation name attributes work) m h r) :
    (asked h).Sublist sent ∧ s.operationStart name attributes ∈ h ∧
      (∀ failure, r = .error failure → failure.isLate = true) ∧
      Metric.operationOutcomes (Metric.measurements h) = counted name (failure? r) := by
  rcases Store.path_operation hpath with ⟨a, hw, hinner, rfl, rfl⟩ | ⟨failure, hw, hinner, rfl, rfl⟩
  · obtain ⟨hsent, hmeasured, -⟩ := hwork _ _ _ hinner
    refine ⟨by simpa [Store.operationStart] using hsent, List.mem_cons_self, nofun, ?_⟩
    simp [Store.operationStart, hmeasured, failure?, counted]
  · obtain ⟨hsent, hmeasured, hserved⟩ := hwork _ _ _ hinner
    have hasked : asked (s.failureNotes name failure) = [] :=
      asked_of_exchanges_eq_nil (s.exchanges_failureNotes name failure)
    refine ⟨by simpa [Store.operationStart, hasked] using hsent, List.mem_cons_self, ?_⟩
    -- Work fails with faults and for want of a connection; only faults of the database count.
    cases failure with
    | fault fault =>
      cases hfault : fault.isDatabase <;>
        simp [Store.operationStart, Store.failureNotes, Store.failureOf, hfault, hmeasured,
          failure?, counted, Failure.isLate]
    | notConnected =>
      simp [Store.operationStart, Store.failureNotes, Store.failureOf, hmeasured, failure?,
        counted, Failure.isLate]
    | _ => cases hserved _ rfl

theorem follows_operation {name : String} {attributes : Attributes} {f : α → Program β}
    (hwork : Works sent work) (hafter : ∀ a, IsAftermath (f a)) :
    Follows m (.ok sent) (some name) (s.operation name attributes work >>= f) := by
  intro h r hpath
  rw [← List.nil_append h]
  rcases path_bind_iff.mp hpath with ⟨failure, hblock, rfl⟩ | ⟨h₁, h₂, a, rfl, hblock, hrest⟩
  · obtain ⟨hsent, hentered, hlate, hcounted⟩ := path_operation_of_works hwork hblock
    refine .worked rfl isUntouched_nil hsent ?_ ?_ ?_
    · rintro _ ⟨⟩
      exact hlate failure rfl
    · rintro _ ⟨⟩
      exact ⟨_, hentered⟩
    · simpa [failure?] using hcounted
  · obtain ⟨hsent, hentered, -, hcounted⟩ := path_operation_of_works hwork hblock
    obtain ⟨hcontacts, huncounted, hmisfits⟩ := hafter a _ _ _ hrest
    have hasked : asked h₂ = [] := asked_of_exchanges_eq_nil hcontacts
    have hsame : counted name (failure? r) = [(name, "success")] := by
      cases r with
      | ok b => rfl
      | error failure =>
        obtain ⟨cause, rfl⟩ := hmisfits failure rfl
        rfl
    refine .worked rfl isUntouched_nil (by simpa [hasked] using hsent) ?_ ?_ ?_
    · intro failure hfailure
      cases r with
      | ok b => cases hfailure
      | error other =>
        cases hfailure
        obtain ⟨cause, rfl⟩ := hmisfits failure rfl
        rfl
    · rintro _ ⟨⟩
      exact ⟨_, List.mem_append_left _ hentered⟩
    · rw [failure?, counted] at hcounted
      simp [hcounted, huncounted, hsame]

theorem path_accountFor_of_works {table operation : String} (hwork : Works sent work)
    (hpath : Path (accountFor table operation work) m h r) :
    (asked h).Sublist sent ∧ (∀ failure, r = .error failure → failure.isLate = true) ∧
      Metric.measurements h = [] := by
  obtain ⟨result, hinner, rfl⟩ := path_accountFor_eq hpath
  obtain ⟨hsent, hmeasured, hserved⟩ := hwork _ _ _ hinner
  refine ⟨hsent, ?_, hmeasured⟩
  rintro failure hfailure
  cases result with
  | ok a => cases hfailure
  | error cause =>
    cases hfailure
    cases cause with
    | fault fault => cases hfault : fault.isDatabase <;> simp [Failure.isLate, hfault]
    | notConnected => rfl
    | _ => cases hserved _ rfl

theorem follows_accountFor {table operation : String} (hwork : Works sent work)
    {entry : Log.Entry} :
    Follows m (.ok sent) none (accountFor table operation work >>= fun _ => log entry) := by
  intro h r hpath
  rw [← List.nil_append h]
  rcases path_bind_iff.mp hpath with ⟨failure, hblock, rfl⟩ | ⟨h₁, h₂, a, rfl, hblock, hrest⟩
  · obtain ⟨hsent, hlate, hmeasured⟩ := path_accountFor_of_works hwork hblock
    refine .worked rfl isUntouched_nil hsent ?_ nofun (by simp [hmeasured])
    rintro _ ⟨⟩
    exact hlate failure rfl
  · obtain ⟨hsent, -, hmeasured⟩ := path_accountFor_of_works hwork hblock
    obtain ⟨rest, rfl, hlast⟩ := path_tell_iff.mp hrest
    obtain ⟨rfl, rfl⟩ := path_done_iff.mp hlast
    exact .worked rfl isUntouched_nil (by simpa using hsent) nofun nofun (by simp [hmeasured])

end Block

/-! ### Building -/

/-- The identifier that is issued when so many have been issued before. -/
def issuedId (issued : Nat) : Value :=
  .text ("00000000-0000-4000-8000-"
    ++ String.ofList (Decimal.padded 12 (Nat.toDigits 10 (issued + 1))))

def issuedIds {β : Type} (issued : Nat) : List β → List Value
  | [] => []
  | _ :: rest => issuedId issued :: issuedIds (issued + 1) rest

theorem path_freshIds_issued {β : Type} {items : List β} {m : Memory} {h : History}
    {r : Except Failure (List Value)} (hpath : Path (freshIds items) m h r) :
    IsUntouched h ∧ r = .ok (issuedIds m.issued items) := by
  induction items generalizing m h r with
  | nil =>
    obtain ⟨rfl, rfl⟩ := path_done_iff.mp hpath
    exact ⟨isUntouched_nil, rfl⟩
  | cons item items ih =>
    obtain ⟨rest, rfl, hrest⟩ := path_tell_iff.mp (path_look_iff.mp hpath)
    rcases path_bind_iff.mp hrest with ⟨failure, hmore, rfl⟩ | ⟨hm, hlast, ids, rfl, hmore, hend⟩
    · cases (ih hmore).2
    · obtain ⟨rfl, rfl⟩ := path_done_iff.mp hend
      obtain ⟨huntouched, heq⟩ := ih hmore
      cases heq
      exact ⟨isUntouched_idIssued.append (huntouched.append isUntouched_nil), rfl⟩

theorem Store.Insertion.path_chooseIds_issued {insertion : Insertion} {m : Memory} {h : History}
    {r : Except Failure (List Value)} (hpath : Path insertion.chooseIds m h r) :
    IsUntouched h ∧ r = .ok (insertion.ids.getD (issuedIds m.issued insertion.embeddings)) := by
  rw [Insertion.chooseIds] at hpath
  cases hids : insertion.ids with
  | none =>
    rw [hids] at hpath
    exact path_freshIds_issued hpath
  | some ids =>
    rw [hids] at hpath
    obtain ⟨rfl, rfl⟩ := path_done_iff.mp hpath
    exact ⟨isUntouched_nil, rfl⟩

theorem Schema.isUntouched_of_noteDropped {s : Schema} {record : Record} {m : Memory}
    {h : History} {r : Except Failure Unit} (hpath : Path (s.noteDropped record) m h r) :
    IsUntouched h := by
  rw [noteDropped] at hpath
  split at hpath
  · obtain ⟨rfl, rfl⟩ := path_done_iff.mp hpath
    exact isUntouched_nil
  · obtain ⟨rest, rfl, hrest⟩ := path_tell_iff.mp hpath
    obtain ⟨rfl, rfl⟩ := path_done_iff.mp hrest
    exact isUntouched_log _

theorem Schema.isUntouched_of_rowsNoted {s : Schema} {records : List Record} {m : Memory}
    {h : History} {r : Except Failure (List (List Value))}
    (hpath : Path (s.rowsNoted records) m h r) : IsUntouched h := by
  induction records generalizing m h r with
  | nil =>
    obtain ⟨rfl, rfl⟩ := path_done_iff.mp hpath
    exact isUntouched_nil
  | cons record records ih =>
    rcases path_ofExcept_bind_iff.mp hpath with ⟨_, -, rfl, -⟩ | ⟨row, -, hrest⟩
    · exact isUntouched_nil
    rcases path_bind_iff.mp hrest with ⟨failure, hnote, -⟩ | ⟨h₁, h₂, _, rfl, hnote, hmore⟩
    · exact isUntouched_of_noteDropped hnote
    rcases path_bind_iff.mp hmore with ⟨failure, hrows, -⟩ | ⟨h₃, h₄, rows, rfl, hrows, hlast⟩
    · exact (isUntouched_of_noteDropped hnote).append (ih hrows)
    · obtain ⟨rfl, rfl⟩ := path_done_iff.mp hlast
      exact (isUntouched_of_noteDropped hnote).append ((ih hrows).append isUntouched_nil)

/-! ### The statements of each call -/

/-- The statements of table setups and of index builds, which have no arguments and no time limit. -/
def plainStatement (sql : String) : Statement := ⟨.execute, sql, [[]], none⟩

namespace Store

variable (s : Store)

def tuningStatement (sql : String) : Statement := ⟨.execute, sql, [[]], s.timeout⟩

def queryStatement (kind : StatementKind) (query : Query) : Statement :=
  ⟨kind, query.sql, [query.args], s.timeout⟩

def addAllStatements (insertion : Insertion) (ids : List Value) :
    Except Failure (List Statement) :=
  if ids.length = insertion.embeddings.length ∧
      insertion.embeddings.length = insertion.allTexts.length ∧
      insertion.allTexts.length = insertion.allMetadata.length then
    if insertion.embeddings.length = 0 then .ok []
    else do
      let records ← records insertion.embeddings insertion.allTexts insertion.allMetadata ids
      let rows ← records.mapM s.schema.row
      return s.insertStatements rows
  else .error (.misconfigured (.lengthsDiffer ids.length insertion.embeddings.length
    insertion.allTexts.length insertion.allMetadata.length) (some ⟨s.table, "add_all"⟩))

def searchStatements (request : SearchRequest) : Except Failure (List Statement) := do
  let query ← s.schema.search s.distance request
  return (Tuning.statements s.tuning).map s.tuningStatement ++ [s.queryStatement .fetch query]

def getByIdsStatements (ids : Value) : Except Failure (List Statement) :=
  if !ids.truthy then .ok []
  else do
    let query ← s.schema.getByIds ids
    let _ ← ids.length
    return [s.queryStatement .fetch query]

def removeAllStatements (ids : Value) : Except Failure (List Statement) := do
  let query ← s.schema.delete ids
  let _ ← ids.length
  return [s.queryStatement .execute query]

def applyIndexStatements (index : IndexDefinition) (name : Option String) (concurrently : Bool) :
    List Statement :=
  ((if index.method.needsExtension then [indexExtensionStatement] else [])
    ++ [Sql.render (s.createIndexPieces index (s.indexName name) concurrently)]).map plainStatement

end Store

/-! ### Each call -/

namespace Store

variable (s : Store) (m : Memory)

theorem works_sendChunks (sql : String) (timeout : Option (Option Float))
    (chunks : List (List (List Value))) :
    Works (chunks.map fun chunk => ⟨.executeMany, sql, chunk, timeout⟩)
      (sendChunks sql timeout chunks) := by
  induction chunks with
  | nil => exact works_pure ()
  | cons chunk chunks ih => exact (works_contact_statement _).bind fun _ => ih

theorem works_tune (sql : String) : Works [s.tuningStatement sql] (s.tune sql) := by
  have hscope : Works [s.tuningStatement sql]
      (inScope .savepoint (statement .execute sql [] s.timeout)) :=
    (works_contact_statement (s.tuningStatement sql)).inScope
  rw [← List.append_nil [s.tuningStatement sql]]
  apply hscope.settle
  intro result hserved
  cases result with
  | ok value => exact works_pure ()
  | error failure =>
    cases failure with
    | fault fault =>
      dsimp only
      split
      · exact works_log _
      · exact works_fail rfl
    | notConnected => exact works_fail rfl
    | _ => cases hserved _ rfl

theorem works_tuneAll (statements : List String) :
    Works (statements.map s.tuningStatement) (s.tuneAll statements) := by
  induction statements with
  | nil => exact works_pure ()
  | cons sql statements ih => exact (s.works_tune sql).bind fun _ => ih

theorem follows_insertRecords (records : List Record) :
    Follows m (do return s.insertStatements (← records.mapM s.schema.row)) (some "add_all")
      (s.insertRecords records) := by
  refine follows_bind (fun h r hpath => ?_) fun rows m' _ => follows_operation
    (works_sendChunks _ _ _).inTransaction fun _ => ?_
  · exact ⟨Schema.isUntouched_of_rowsNoted hpath, (Schema.path_rowsNoted hpath).2⟩
  · exact (isAftermath_note rfl).bind fun _ => isAftermath_note rfl

theorem follows_addAll (insertion : Insertion) :
    Follows m (s.addAllStatements insertion
        (insertion.ids.getD (issuedIds m.issued insertion.embeddings))) (some "add_all")
      (s.addAll insertion) := by
  rw [addAll_eq]
  refine follows_bind (g := s.addAllStatements insertion)
    (fun _ _ => insertion.path_chooseIds_issued) fun ids m' _ => ?_
  rw [addAllStatements]
  split
  · split
    · exact follows_pure []
    · exact follows_ofExcept_bind fun records m' _ =>
        (s.follows_insertRecords m' records).bind_pure fun _ => ids
  · exact follows_fail _

/-- The identifier of a single embedding: the one given, or a new one. -/
def idOrIssued (id : Value) (issued : Nat) : Value :=
  if id.truthy then id else issuedId issued

/-- The identifier of a single embedding is chosen first. -/
def chooseId (id : Value) : Program Value :=
  if id.truthy then pure id else Value.text <$> freshId

theorem add_eq (embedding : Value) (text : Option String) (metadata : List (String × Value))
    (id : Value) :
    s.add embedding text metadata id = chooseId id >>= fun id =>
      s.addAll ⟨[embedding], some [text], some [metadata], some [id]⟩ >>= fun _ => pure id := by
  rw [add, chooseId]
  split <;> rfl

theorem path_chooseId {id : Value} {m : Memory} {h : History} {r : Except Failure Value}
    (hpath : Path (chooseId id) m h r) : IsUntouched h ∧ r = .ok (idOrIssued id m.issued) := by
  rw [idOrIssued]
  rw [chooseId] at hpath
  split at hpath
  case isTrue hgiven =>
    obtain ⟨rfl, rfl⟩ := path_done_iff.mp hpath
    rw [if_pos hgiven]
    exact ⟨isUntouched_nil, rfl⟩
  case isFalse hmissing =>
    obtain ⟨rest, rfl, hrest⟩ := path_tell_iff.mp (path_look_iff.mp hpath)
    obtain ⟨rfl, rfl⟩ := path_done_iff.mp hrest
    rw [if_neg hmissing]
    exact ⟨isUntouched_idIssued, rfl⟩

theorem follows_add (embedding : Value) (text : Option String) (metadata : List (String × Value))
    (id : Value) :
    Follows m (s.addAllStatements ⟨[embedding], some [text], some [metadata],
        some [idOrIssued id m.issued]⟩ [idOrIssued id m.issued]) (some "add_all")
      (s.add embedding text metadata id) := by
  rw [add_eq]
  exact follows_bind
    (g := fun id => s.addAllStatements ⟨[embedding], some [text], some [metadata], some [id]⟩ [id])
    (fun _ _ => path_chooseId) fun id m' _ => (s.follows_addAll m' _).bind_pure fun _ => id

/-- The answer to a search is made into matches, which are counted and logged. -/
theorem isAftermath_search (request : SearchRequest) (answer : Value) : IsAftermath (do
    let rows ← Program.ofExcept answer.items
    let found ← Program.ofExcept (rows.mapM (s.schema.rowToMatch s.distance none))
    let kept ← Program.ofExcept (keepScored request.minScore found)
    Program.measure (.searchResults (.int kept.length))
    Program.log (Log.event logger .debug "Search complete"
      [tableField s.schema, ("returned", .int kept.length)])
    return kept) := by
  apply (isAftermath_ofExcept answer.onlyMisfits_items).bind
  intro rows
  apply (isAftermath_ofExcept (onlyMisfits_mapM
    (s.schema.onlyMisfits_rowToMatch s.distance none) rows)).bind
  intro found
  apply (isAftermath_ofExcept (onlyMisfits_keepScored _ found)).bind
  intro kept
  apply (isAftermath_note rfl).bind
  intro _
  exact (isAftermath_note rfl).bind fun _ => isAftermath_pure kept

theorem follows_search (request : SearchRequest) :
    Follows m (s.searchStatements request) (some "search") (s.search request) :=
  follows_ofExcept_bind fun _ _ _ => follows_operation
    ((s.works_tuneAll _).bind fun _ => works_contact_statement _).inTransaction
    fun answer => s.isAftermath_search request answer

theorem isAftermath_getByIds (answer : Value) : IsAftermath (do
    let rows ← Program.ofExcept answer.items
    Program.ofExcept (rows.mapM (s.schema.rowToMatch s.distance (some 1)))) := by
  apply (isAftermath_ofExcept answer.onlyMisfits_items).bind
  intro rows
  exact isAftermath_ofExcept (onlyMisfits_mapM
    (s.schema.onlyMisfits_rowToMatch s.distance (some 1)) rows)

theorem follows_getByIds (ids : Value) :
    Follows m (s.getByIdsStatements ids) (some "get_by_ids") (s.getByIds ids) := by
  rw [getByIds, getByIdsStatements]
  split
  · exact follows_pure []
  · exact follows_ofExcept_bind fun _ _ _ => follows_ofExcept_bind fun _ _ _ =>
      follows_operation (works_contact_statement _).withConnection s.isAftermath_getByIds

/-- The rows that have been deleted are counted and logged. -/
theorem isAftermath_removeAll (count : Nat) (status : Value) : IsAftermath (do
    let deleted := affectedRows status
    Program.recordRowsDeleted (.int deleted)
    Program.log (Log.event logger .info "Deleted embeddings"
      [tableField s.schema, ("requested", .int count), ("deleted", .int deleted)])
    return deleted) := by
  have hrecord : IsAftermath (recordRowsDeleted (.int (affectedRows status))) :=
    (isAftermath_ofExcept (Metric.onlyMisfits_increase _)).bind fun _ => isAftermath_note rfl
  apply hrecord.bind
  intro _
  exact (isAftermath_note rfl).bind fun _ => isAftermath_pure _

theorem follows_removeAll (ids : Value) :
    Follows m (s.removeAllStatements ids) (some "remove_all") (s.removeAll ids) :=
  follows_ofExcept_bind fun _ _ _ => follows_ofExcept_bind fun count _ _ =>
    follows_operation (works_contact_statement _).inTransaction (s.isAftermath_removeAll count)

theorem path_warnDistance {index : IndexDefinition} {m : Memory} {h : History}
    {r : Except Failure Unit} (hpath : Path (s.warnDistance index) m h r) :
    IsUntouched h ∧ r = .ok () := by
  rw [warnDistance] at hpath
  split at hpath
  · obtain ⟨rfl, rfl⟩ := path_done_iff.mp hpath
    exact ⟨isUntouched_nil, rfl⟩
  · obtain ⟨rest, rfl, hrest⟩ := path_tell_iff.mp hpath
    obtain ⟨rfl, rfl⟩ := path_done_iff.mp hrest
    exact ⟨isUntouched_log _, rfl⟩

theorem works_indexStatements (index : IndexDefinition) (name : Option String)
    (concurrently : Bool) :
    Works (s.applyIndexStatements index name concurrently) (do
      if index.method.needsExtension then
        let _ ← Program.statement .execute indexExtensionStatement [] none
      Program.statement .execute
        (Sql.render (s.createIndexPieces index (s.indexName name) concurrently)) [] none) := by
  rw [applyIndexStatements]
  split
  · exact (works_contact_statement _).bind fun _ => works_contact_statement _
  · exact works_contact_statement _

theorem follows_applyIndex (index : IndexDefinition) (name : Option String) (concurrently : Bool) :
    Follows m (.ok (s.applyIndexStatements index name concurrently)) (some "apply_vector_index")
      (s.applyIndex index name concurrently) := by
  refine follows_bind (g := fun _ => .ok (s.applyIndexStatements index name concurrently))
    (fun _ _ => s.path_warnDistance) fun _ _ _ => follows_operation
      (s.works_indexStatements index name concurrently).withConnection fun _ => ?_
  exact (isAftermath_note rfl).bind fun _ => isAftermath_pure _

theorem follows_indexStatement {operation : String} (sql : String) {f : Value → Program Unit}
    (hafter : ∀ answer, IsAftermath (f answer)) :
    Follows m (.ok [plainStatement sql]) (some operation)
      (s.operation operation [] (withConnection (statement .execute sql [] none)) >>= f) :=
  follows_operation (works_contact_statement _).withConnection hafter

end Store

theorem TableSetup.works_executeAll (statements : List String) :
    Works (statements.map plainStatement) (executeAll statements) := by
  induction statements with
  | nil => exact works_pure ()
  | cons sql statements ih => exact (works_contact_statement _).bind fun _ => ih

theorem TableSetup.follows_create (schema : Schema) (size : Value) (overwrite storeMetadata : Bool)
    (m : Memory) :
    Follows m (do
        let pieces ← schema.createTable size storeMetadata
        return (statements schema pieces overwrite).map plainStatement) none
      (create schema size overwrite storeMetadata) :=
  follows_ofExcept_bind fun _ _ _ => follows_accountFor (works_executeAll _).inTransaction

/-! ### All calls -/

/-- The calls on a store, and the setting up of its table. -/
inductive Call
  | add (store : Store) (embedding : Value) (text : Option String)
    (metadata : List (String × Value)) (id : Value)
  | addAll (store : Store) (insertion : Store.Insertion)
  | search (store : Store) (request : SearchRequest)
  | findRelevant (store : Store) (embedding limit minScore : Value) (filter : Option Filter)
  | getByIds (store : Store) (ids : Value)
  | remove (store : Store) (id : Value)
  | removeAll (store : Store) (ids : Value)
  | applyIndex (store : Store) (index : IndexDefinition) (name : Option String)
    (concurrently : Bool)
  | dropIndex (store : Store) (name : Option String)
  | reindex (store : Store) (name : Option String)
  | setUpTable (schema : Schema) (size : Value) (overwrite storeMetadata : Bool)

namespace Call

def program : Call → Program Unit
  | add store embedding text metadata id => do let _ ← store.add embedding text metadata id
  | addAll store insertion => do let _ ← store.addAll insertion
  | search store request => do let _ ← store.search request
  | findRelevant store embedding limit minScore filter => do
    let _ ← store.findRelevant embedding limit minScore filter
  | getByIds store ids => do let _ ← store.getByIds ids
  | remove store id => do let _ ← store.remove id
  | removeAll store ids => do let _ ← store.removeAll ids
  | applyIndex store index name concurrently => do
    let _ ← store.applyIndex index name concurrently
  | dropIndex store name => store.dropIndex name
  | reindex store name => store.reindex name
  | setUpTable schema size overwrite storeMetadata =>
    TableSetup.create schema size overwrite storeMetadata

/-- The name under which a call is counted, and its span entered. -/
def operation? : Call → Option String
  | add .. | addAll .. => some "add_all"
  | search .. | findRelevant .. => some "search"
  | getByIds .. => some "get_by_ids"
  | remove .. | removeAll .. => some "remove_all"
  | applyIndex .. => some "apply_vector_index"
  | dropIndex .. => some "drop_vector_index"
  | reindex .. => some "reindex"
  | setUpTable .. => none

/-- The statements that a call builds from its arguments alone, when so many identifiers have been issued before. -/
def statements (issued : Nat) : Call → Except Failure (List Statement)
  | add store embedding text metadata id =>
    store.addAllStatements
      ⟨[embedding], some [text], some [metadata], some [Store.idOrIssued id issued]⟩
      [Store.idOrIssued id issued]
  | addAll store insertion =>
    store.addAllStatements insertion (insertion.ids.getD (issuedIds issued insertion.embeddings))
  | search store request => store.searchStatements request
  | findRelevant store embedding limit minScore filter => do
    store.searchStatements
      (← SearchRequest.make embedding (store.limitOrDefault limit) minScore filter)
  | getByIds store ids => store.getByIdsStatements ids
  | remove store id => store.removeAllStatements (.list [id])
  | removeAll store ids => store.removeAllStatements ids
  | applyIndex store index name concurrently =>
    .ok (store.applyIndexStatements index name concurrently)
  | dropIndex store name =>
    .ok [plainStatement (Sql.render (store.dropIndexPieces (store.indexName name)))]
  | reindex store name =>
    .ok [plainStatement (Sql.render (store.reindexPieces (store.indexName name)))]
  | setUpTable schema size overwrite storeMetadata => do
    let pieces ← schema.createTable size storeMetadata
    return (TableSetup.statements schema pieces overwrite).map plainStatement

theorem follows_program (c : Call) (m : Memory) :
    Follows m (c.statements m.issued) c.operation? c.program := by
  cases c with
  | add store embedding text metadata id => exact (store.follows_add m _ _ _ _).bind_pure _
  | addAll store insertion => exact (store.follows_addAll m insertion).bind_pure _
  | search store request => exact (store.follows_search m request).bind_pure _
  | findRelevant store embedding limit minScore filter =>
    have hsearch : Follows m
        (SearchRequest.make embedding (store.limitOrDefault limit) minScore filter >>=
          store.searchStatements) (some "search")
        (store.findRelevant embedding limit minScore filter) :=
      follows_ofExcept_bind fun request m' _ => store.follows_search m' request
    exact hsearch.bind_pure _
  | getByIds store ids => exact (store.follows_getByIds m ids).bind_pure _
  | remove store id => exact (store.follows_removeAll m (.list [id])).bind_pure _
  | removeAll store ids => exact (store.follows_removeAll m ids).bind_pure _
  | applyIndex store index name concurrently =>
    exact (store.follows_applyIndex m index name concurrently).bind_pure _
  | dropIndex store name => exact store.follows_indexStatement m _ fun _ => isAftermath_note rfl
  | reindex store name => exact store.follows_indexStatement m _ fun _ => isAftermath_pure ()
  | setUpTable schema size overwrite storeMetadata =>
    exact TableSetup.follows_create schema size overwrite storeMetadata m

theorem course_run {σ : Type} (c : Call) (server : Server σ) (state : σ) (m : Memory) :
    Course (c.statements m.issued) c.operation? (c.program.run server state m).history
      (failure? (c.program.run server state m).result) :=
  c.follows_program m _ _ (path_run server c.program state m)

end Call

end VectorTable
