import VectorTable.Proofs.Decimal.Numeral
import VectorTable.Proofs.Metric.Totals
import VectorTable.Proofs.Program.Together
import VectorTable.Proofs.Store.Course

/-!
# Counting rows

The totals of rows are counted after a transaction is over, apart from the commit. Nevertheless they agree with what the database keeps, also when many changes run at the same time and each of them may fail anywhere: a change is granted if all its contacts are answered without a fault, and only then does it commit its rows, count them, and answer. So the totals depend on the replies to each change alone, not on the order in which the changes take turns.
-/

namespace VectorTable

open Program VectorTable.Metric

/-! ### Changes -/

/-- Changes to the rows of a store. -/
inductive Change
  | add (embedding : Value) (text : Option String) (metadata : List (String × Value)) (id : Value)
  | addAll (insertion : Store.Insertion)
  | remove (id : Value)
  | removeAll (ids : Value)

/-- What a change answers: the identifiers under which rows were stored, or the number of rows that were removed. -/
inductive Answer
  | stored (ids : List Value)
  | removed (count : Int)

namespace Change

def program (s : Store) : Change → Program Answer
  | add embedding text metadata id => do return .stored [← s.add embedding text metadata id]
  | addAll insertion => do return .stored (← s.addAll insertion)
  | remove id => do return .removed (← s.remove id)
  | removeAll ids => do return .removed (← s.removeAll ids)

/-- The number of rows that a change inserts if it is granted. -/
def inserts : Change → Nat
  | add .. => 1
  | addAll insertion => insertion.embeddings.length
  | remove _ | removeAll _ => 0

/-- The number of rows that a change removes if it is granted and the database reports some number. -/
def removes (reported : Nat) : Change → Nat
  | add .. | addAll _ => 0
  | remove _ | removeAll _ => reported

end Change

/-- The number of removed rows that is answered, if there is such an answer. -/
def removedCount : Option (Except Failure Answer) → Int
  | some (.ok (.removed count)) => count
  | _ => 0

/-! ### What the database keeps -/

/-- The number of rows that a history inserts and commits. -/
def insertedRows (h : History) : Nat :=
  (((committed h).filter fun s => s.kind = .executeMany).flatMap Statement.rows).length

/-- The number of rows that the committed deletions of a history report, if each of them reports the same number. -/
def removedRows (reported : Nat) (h : History) : Nat :=
  ((committed h).filter fun s => s.kind = .execute).length * reported

/-- Deletions that are answered report some number of rows. -/
def Reports (reported : Nat) (h : History) : Prop :=
  ∀ s status, (.statement s, .ok status) ∈ exchanges h → s.kind = .execute →
    status = .text ("DELETE " ++ toString reported)

theorem Store.affectedRows_delete {n : Nat} (hn : n ≤ Whole.limit) :
    affectedRows (.text ("DELETE " ++ toString n)) = n := by
  have hword : ' ' ∉ "DELETE".toList := by decide
  have hdigits : ' ' ∉ Nat.toDigits 10 n := by
    intro hmem
    exact absurd (Nat.isDigit_of_mem_toDigits (by decide) (by decide) hmem) (by decide)
  have hstatus : ("DELETE " ++ toString n).toList =
      "DELETE".toList ++ ' ' :: Nat.toDigits 10 n := by
    have hfirst : "DELETE ".toList = "DELETE".toList ++ [' '] := by decide
    have hnumber : (toString n).toList = Nat.toDigits 10 n := Nat.toList_repr
    rw [String.toList_append, hfirst, hnumber, List.append_assoc, List.singleton_append]
  have hshort : n < 10 ^ Decimal.mostDigits :=
    calc n ≤ Whole.limit := hn
      _ < 10 ^ 16 := by decide
      _ ≤ 10 ^ Decimal.mostDigits := Nat.pow_le_pow_right (by decide) (by decide)
  rw [affectedRows, hstatus, splitAt_append hword, splitAt_of_notMem hdigits, List.getLastD_cons,
    List.getLastD_cons, List.getLastD_nil, Decimal.readInt?_toDigits hshort]
  rfl

/-- The count of a deletion is refused, or it is measured, logged and answered. -/
theorem Program.path_recordRowsDeleted {count : Int} {entry : Log.Entry} {m : Memory} {h : History}
    {r : Except Failure Int}
    (hpath : Path (recordRowsDeleted (.int count) >>= fun _ => log entry >>= fun _ => pure count)
      m h r) :
    ((∃ failure, increase (.int count) = .error failure) ∧ h = []) ∨
      h = [.note (.measured (.rowsDeleted (.int count))), .note (.log entry)] ∧ r = .ok count := by
  rw [recordRowsDeleted] at hpath
  cases hincrease : increase (.int count) with
  | error failure =>
    rw [hincrease] at hpath
    exact .inl ⟨⟨failure, rfl⟩, (path_done_iff.mp hpath).1⟩
  | ok amount =>
    rw [hincrease] at hpath
    obtain ⟨_, rfl, hlog⟩ := path_tell_iff.mp hpath
    obtain ⟨_, rfl, hend⟩ := path_tell_iff.mp hlog
    obtain ⟨rfl, rfl⟩ := path_done_iff.mp hend
    exact .inr ⟨rfl, rfl⟩

/-! ### Replies -/

/-- The replies of a history, in order. -/
def replies (h : History) : List Reply := (exchanges h).map Prod.snd

theorem replies_append (h₁ h₂ : History) : replies (h₁ ++ h₂) = replies h₁ ++ replies h₂ := by
  rw [replies, exchanges_append, List.map_append]
  rfl

/-- Whether there is a reply, and none is a fault. -/
def isGranted (replies : List Reply) : Bool := !replies.isEmpty && replies.all Except.isOk

theorem ReleasesCompleted.congr {h₁ h₂ : History} (h : ReleasesCompleted h₁)
    (hsame : exchanges h₁ = exchanges h₂) : ReleasesCompleted h₂ := by
  rw [ReleasesCompleted, ← hsame]
  exact h

theorem replies_congr {h₁ h₂ : History} (hsame : exchanges h₁ = exchanges h₂) :
    replies h₁ = replies h₂ := by
  rw [replies, replies, hsame]

/-- Histories that commit nothing, count no rows and are not granted. -/
structure IsVoid (h : History) : Prop where
  committed : committed h = []
  amounts : ∀ total : RowTotal, total.amounts h = []
  replies : isGranted (replies h) = false

theorem isVoid_nil : IsVoid [] := ⟨rfl, fun total => total.amounts_nil, rfl⟩

theorem IsUntouched.exchanges_append {first : History} (hfirst : IsUntouched first) (h : History) :
    exchanges (first ++ h) = exchanges h := by
  rw [VectorTable.exchanges_append, hfirst.contacts, List.nil_append]

theorem IsUntouched.amounts_append {first : History} (hfirst : IsUntouched first) (h : History)
    (total : RowTotal) : total.amounts (first ++ h) = total.amounts h := by
  rw [RowTotal.amounts_append, total.amounts_of_measurements_eq_nil hfirst.measurements,
    List.nil_append]

theorem IsVoid.untouched_append {first h : History} (hfirst : IsUntouched first) (hh : IsVoid h) :
    IsVoid (first ++ h) where
  committed := (committed_congr (hfirst.exchanges_append h)).trans hh.committed
  amounts total := (hfirst.amounts_append h total).trans (hh.amounts total)
  replies := by rw [replies_congr (hfirst.exchanges_append h), hh.replies]

theorem IsUntouched.isVoid {h : History} (hh : IsUntouched h) : IsVoid h := by
  rw [← List.append_nil h]
  exact isVoid_nil.untouched_append hh

/-! ### Work that fails with its first fault -/

section Strict

variable {α β : Type} {m : Memory} {h : History}

/-- Work that sends statements, measures nothing, and fails exactly if a statement is answered by a fault. -/
def IsStrict (p : Program α) : Prop :=
  ∀ m h r, Path p m h r → OnlyStatements (exchanges h) ∧ measurements h = [] ∧
    r.isOk = (replies h).all Except.isOk

theorem isStrict_pure (a : α) : IsStrict (pure a : Program α) := by
  intro m h r hpath
  obtain ⟨rfl, rfl⟩ := path_done_iff.mp hpath
  exact ⟨onlyStatements_nil, rfl, rfl⟩

theorem isStrict_statement (s : Statement) : IsStrict (contact (.statement s)) := by
  intro m h r hpath
  obtain ⟨reply, rest, rfl, hrest⟩ := path_ask_iff.mp hpath
  cases reply with
  | ok value =>
    obtain ⟨rfl, rfl⟩ := path_done_iff.mp hrest
    exact ⟨onlyStatements_nil.cons s _, rfl, rfl⟩
  | error fault =>
    obtain ⟨rfl, rfl⟩ := path_done_iff.mp hrest
    exact ⟨onlyStatements_nil.cons s _, rfl, rfl⟩

theorem IsStrict.bind {p : Program α} {f : α → Program β} (hp : IsStrict p)
    (hf : ∀ a, IsStrict (f a)) : IsStrict (p >>= f) := by
  intro m h r hpath
  rcases path_bind_iff.mp hpath with ⟨failure, hfirst, rfl⟩ | ⟨h₁, h₂, a, rfl, hfirst, hrest⟩
  · exact hp _ _ _ hfirst
  · obtain ⟨honly, hmeasured, hok⟩ := hp _ _ _ hfirst
    obtain ⟨honly', hmeasured', hok'⟩ := hf a _ _ _ hrest
    refine ⟨?_, by simp [hmeasured, hmeasured'], ?_⟩
    · rw [exchanges_append]
      exact honly.append honly'
    · have hall : (replies h₁).all Except.isOk = true := hok.symm
      rw [replies_append, List.all_append, hall, Bool.true_and, hok']

theorem isStrict_sendChunks (sql : String) (timeout : Option (Option Float))
    (chunks : List (List (List Value))) : IsStrict (Store.sendChunks sql timeout chunks) := by
  induction chunks with
  | nil => exact isStrict_pure ()
  | cons chunk chunks ih => exact (isStrict_statement _).bind fun _ => ih

theorem isOk_afterReply (r : Except Failure α) (reply : Reply) :
    (afterReply r reply).isOk = (r.isOk && reply.isOk) := by
  cases reply with
  | ok value => exact (Bool.and_true _).symm
  | error fault => exact (Bool.and_false _).symm

/-- Strict work in a transaction succeeds exactly if it is granted. -/
theorem IsStrict.path_inTransaction {work : Program α} (hwork : IsStrict work)
    {r : Except Failure α} (hpath : Path (inTransaction work) m h r) :
    r.isOk = isGranted (replies h) ∧ measurements h = [] := by
  rcases Program.path_inTransaction hpath with ⟨-, rfl, rfl⟩ | ⟨fault, rfl, rfl⟩ |
    ⟨value, fault, reply, rfl, rfl⟩ |
    ⟨acquired, entered, hw, result, closed, released, hresult, rfl, rfl⟩
  · exact ⟨rfl, rfl⟩
  · exact ⟨rfl, rfl⟩
  · cases reply <;> exact ⟨rfl, rfl⟩
  · obtain ⟨-, hmeasured, hok⟩ := hwork _ _ _ hresult
    refine ⟨?_, by simp [hmeasured]⟩
    rw [isOk_afterReply, isOk_afterReply, hok]
    simp [isGranted, replies, Except.isOk, Except.toBool, Bool.and_assoc]

/-- An operation with strict work in a transaction of its own, and whatever comes after it: either it fails and leaves nothing behind, or the work is committed and all contacts are answered. -/
theorem IsStrict.path_operation {s : Store} {name : String} {attributes : Attributes}
    {work : Program α} (hwork : IsStrict work) {f : α → Program β} (hf : ∀ a, IsSilent (f a))
    {r : Except Failure β}
    (hpath : Path (s.operation name attributes (inTransaction work) >>= f) m h r)
    (hrelease : ReleasesCompleted h) :
    (∃ failure, r = .error failure ∧ IsVoid h) ∨
      ∃ a hw m' rest, Path work m hw (.ok a) ∧ Path (f a) m' rest r ∧
        exchanges hw ⊆ exchanges h ∧ committed h = answered (exchanges hw) ∧
        isGranted (replies h) = true ∧
        ∀ total : RowTotal, total.amounts h = total.amounts rest := by
  have honly : ∀ hw result, Path work m hw result → OnlyStatements (exchanges hw) :=
    fun hw result hinner => (hwork _ _ _ hinner).1
  -- Whether the operation succeeds is the same question as whether all its contacts are answered.
  rcases path_bind_iff.mp hpath with ⟨failure, hblock, rfl⟩ | ⟨h₁, h₂, a, rfl, hblock, hrest⟩
  · obtain ⟨ht, result, hinner, hr, hsame, hcounted⟩ := Store.exists_path_of_operation hblock
    obtain ⟨hok, hmeasured⟩ := hwork.path_inTransaction hinner
    rcases committed_inTransaction hinner honly (hrelease.congr hsame) with
      ⟨_, rfl, hcommitted⟩ | ⟨_, _, _, _, _, _, rfl, -⟩
    · refine .inl ⟨failure, rfl, (committed_congr hsame).trans hcommitted, fun total => ?_, ?_⟩
      · rw [hcounted, total.amounts_of_measurements_eq_nil hmeasured]
      · rw [replies_congr hsame, ← hok]
        rfl
    · cases hr
  · obtain ⟨ht, result, hinner, hr, hsame, hcounted⟩ := Store.exists_path_of_operation hblock
    obtain ⟨hok, hmeasured⟩ := hwork.path_inTransaction hinner
    have hexchanges : exchanges (h₁ ++ h₂) = exchanges ht := by
      rw [exchanges_append, hf a _ _ _ hrest, List.append_nil, hsame]
    rcases committed_inTransaction hinner honly (hrelease.congr hexchanges) with
      ⟨_, rfl, -⟩ | ⟨_, hw, _, _, _, _, rfl, hdone, hin, hcommitted⟩
    · cases hr
    · cases hr
      refine .inr ⟨_, hw, _, h₂, hdone, hrest, ?_,
        (committed_congr hexchanges).trans hcommitted, ?_, fun total => ?_⟩
      · intro exchange hexchange
        rw [hexchanges, hin]
        simp [hexchange]
      · rw [replies_congr hexchanges, ← hok]
        rfl
      · rw [RowTotal.amounts_append, hcounted, total.amounts_of_measurements_eq_nil hmeasured,
          List.nil_append]

end Strict

/-! ### What each change comes to -/

/-- Histories that are granted, insert some number of rows and count them. -/
structure Inserts (count : Nat) (h : History) : Prop where
  kinds : ∀ s ∈ committed h, s.kind = .executeMany
  rows : (committedRows h).length = count
  written : RowTotal.written.amounts h = [.int count]
  deleted : RowTotal.deleted.amounts h = []
  replies : isGranted (replies h) = true

/-- Histories that are granted and delete with one statement. The number of rows that is reported for it is counted and answered, if it is not too large for a total to be exact. -/
structure Removes (count : Nat) (h : History) (r : Except Failure Int) : Prop where
  statement : ∃ s, s.kind = .execute ∧ committed h = [s]
  written : RowTotal.written.amounts h = []
  deleted : count ≤ Whole.limit → RowTotal.deleted.amounts h = [.int count] ∧ r = .ok count
  replies : isGranted (replies h) = true

theorem Inserts.untouched_append {count : Nat} {first h : History} (hfirst : IsUntouched first)
    (hh : Inserts count h) : Inserts count (first ++ h) where
  kinds := by
    rw [committed_congr (hfirst.exchanges_append h)]
    exact hh.kinds
  rows := by
    rw [committedRows, committed_congr (hfirst.exchanges_append h)]
    exact hh.rows
  written := (hfirst.amounts_append h _).trans hh.written
  deleted := (hfirst.amounts_append h _).trans hh.deleted
  replies := by rw [replies_congr (hfirst.exchanges_append h), hh.replies]

namespace Store

variable {s : Store} {m : Memory} {h : History}

theorem void_or_inserts_of_insertRecords {records : List Record} {r : Except Failure Unit}
    (hpath : Path (s.insertRecords records) m h r) (hrelease : ReleasesCompleted h) :
    IsVoid h ∨ Inserts records.length h := by
  rcases path_bind_iff.mp hpath with ⟨failure, hrows, -⟩ | ⟨h₁, h₂, rows, rfl, hrows, hrest⟩
  · exact .inl (Schema.isUntouched_of_rowsNoted hrows).isVoid
  have huntouched := Schema.isUntouched_of_rowsNoted hrows
  have hlength : rows.length = records.length :=
    length_of_mapM (Schema.path_rowsNoted hrows).2.symm
  refine Or.imp (.untouched_append huntouched) (.untouched_append huntouched) ?_
  have hsilent : ∀ a : Unit, IsSilent (do
      Program.measure (.rowsWritten (.int records.length))
      Program.log (Log.event logger .info "Inserted embeddings"
        [tableField s.schema, ("count", .int records.length)])) := fun _ =>
    (isSilent_note _).bind fun _ => isSilent_note _
  rcases (isStrict_sendChunks _ _ _).path_operation hsilent hrest
      (hrelease.congr (huntouched.exchanges_append h₂)) with
    ⟨failure, -, hvoid⟩ | ⟨_, hw, m', rest, hsend, hlast, -, hcommitted, hgranted, hcounted⟩
  · exact .inl hvoid
  · obtain ⟨_, rfl, hlog⟩ := path_tell_iff.mp hlast
    obtain ⟨_, rfl, hend⟩ := path_tell_iff.mp hlog
    obtain ⟨rfl, rfl⟩ := path_done_iff.mp hend
    rw [((path_sendChunks hsend).2.2 rfl).2] at hcommitted
    refine .inr ⟨fun s hs => ?_, ?_, hcounted _, hcounted _, hgranted⟩
    · rw [hcommitted] at hs
      obtain ⟨chunk, -, rfl⟩ := List.mem_map.mp hs
      rfl
    · rw [committedRows, hcommitted, List.flatMap_map, List.flatMap_id', flatten_chunksOf, hlength]

theorem void_or_inserts_of_addAll {insertion : Insertion} {r : Except Failure (List Value)}
    (hpath : Path (s.addAll insertion) m h r) (hrelease : ReleasesCompleted h) :
    IsVoid h ∨ Inserts insertion.embeddings.length h := by
  rw [addAll_eq] at hpath
  rcases path_bind_iff.mp hpath with ⟨failure, hchoice, -⟩ | ⟨h₁, h₂, ids, rfl, hchoice, hrest⟩
  · exact .inl (insertion.path_chooseIds_issued hchoice).1.isVoid
  have huntouched := (insertion.path_chooseIds_issued hchoice).1
  replace hrelease := hrelease.congr (huntouched.exchanges_append h₂)
  refine Or.imp (.untouched_append huntouched) (.untouched_append huntouched) ?_
  split at hrest
  case isFalse hlengths =>
    obtain ⟨rfl, -⟩ := path_done_iff.mp hrest
    exact .inl isVoid_nil
  case isTrue hlengths =>
    split at hrest
    case isTrue hnone =>
      obtain ⟨rfl, -⟩ := path_done_iff.mp hrest
      exact .inl isVoid_nil
    case isFalse hsome =>
      rcases path_ofExcept_bind_iff.mp hrest with ⟨_, -, rfl, -⟩ | ⟨records, hrecords, hmore⟩
      · exact .inl isVoid_nil
      have hlength : records.length = insertion.embeddings.length := by
        rw [length_of_mapM hrecords]
        simp [hlengths]
      rw [← hlength]
      rcases path_bind_iff.mp hmore with ⟨failure, hinsert, -⟩ | ⟨h₃, _, _, rfl, hinsert, hlast⟩
      · exact void_or_inserts_of_insertRecords hinsert hrelease
      · obtain ⟨rfl, -⟩ := path_done_iff.mp hlast
        rw [List.append_nil] at hrelease ⊢
        exact void_or_inserts_of_insertRecords hinsert hrelease

theorem void_or_inserts_of_add {embedding : Value} {text : Option String}
    {metadata : List (String × Value)} {id : Value} {r : Except Failure Value}
    (hpath : Path (s.add embedding text metadata id) m h r) (hrelease : ReleasesCompleted h) :
    IsVoid h ∨ Inserts 1 h := by
  rw [add_eq] at hpath
  rcases path_bind_iff.mp hpath with ⟨failure, hchoice, -⟩ | ⟨h₁, h₂, id, rfl, hchoice, hrest⟩
  · exact .inl (path_chooseId hchoice).1.isVoid
  have huntouched := (path_chooseId hchoice).1
  replace hrelease := hrelease.congr (huntouched.exchanges_append h₂)
  refine Or.imp (.untouched_append huntouched) (.untouched_append huntouched) ?_
  rcases path_bind_iff.mp hrest with ⟨failure, hadd, -⟩ | ⟨h₃, _, _, rfl, hadd, hlast⟩
  · exact void_or_inserts_of_addAll hadd hrelease
  · obtain ⟨rfl, -⟩ := path_done_iff.mp hlast
    rw [List.append_nil] at hrelease ⊢
    exact void_or_inserts_of_addAll hadd hrelease

theorem void_or_removes_of_removeAll {ids : Value} {r : Except Failure Int}
    (hpath : Path (s.removeAll ids) m h r) (hrelease : ReleasesCompleted h) {reported : Nat}
    (hreports : Reports reported h) :
    (∃ failure, r = .error failure ∧ IsVoid h) ∨ Removes reported h r := by
  rcases path_ofExcept_bind_iff.mp hpath with ⟨failure, -, rfl, rfl⟩ | ⟨query, -, hrest⟩
  · exact .inl ⟨failure, rfl, isVoid_nil⟩
  rcases path_ofExcept_bind_iff.mp hrest with ⟨failure, -, rfl, rfl⟩ | ⟨count, -, hmore⟩
  · exact .inl ⟨failure, rfl, isVoid_nil⟩
  have hsilent : ∀ status : Value, IsSilent (do
      Program.recordRowsDeleted (.int (affectedRows status))
      Program.log (Log.event logger .info "Deleted embeddings" [tableField s.schema,
        ("requested", .int count), ("deleted", .int (affectedRows status))])
      return affectedRows status) := fun status =>
    ((isSilent_ofExcept _).bind fun _ => isSilent_note _).bind fun _ =>
      (isSilent_note _).bind fun _ => isSilent_pure _
  rcases (isStrict_statement _).path_operation hsilent hmore hrelease with hfailed |
    ⟨status, hw, m', rest, hdone, hlast, hwithin, hcommitted, hgranted, hcounted⟩
  · exact .inl hfailed
  -- The only statement is the deletion, and its status is the answer.
  rcases path_ask_iff.mp hdone with ⟨fault | value, _, rfl, hanswer⟩
  · cases (path_done_iff.mp hanswer).2
  obtain ⟨rfl, hvalue⟩ := path_done_iff.mp hanswer
  cases hvalue
  have hreported : status = .text ("DELETE " ++ toString reported) :=
    hreports _ _ (hwithin List.mem_cons_self) rfl
  rcases path_recordRowsDeleted hlast with ⟨⟨failure, hrefused⟩, rfl⟩ | ⟨rfl, rfl⟩
  · refine .inr ⟨⟨_, rfl, hcommitted⟩, hcounted _, fun hsmall => ?_, hgranted⟩
    rw [hreported, affectedRows_delete hsmall, increase_count hsmall] at hrefused
    cases hrefused
  · refine .inr ⟨⟨_, rfl, hcommitted⟩, hcounted _, fun hsmall => ?_, hgranted⟩
    have haffected : affectedRows status = reported := by
      rw [hreported, affectedRows_delete hsmall]
    rw [hcounted, haffected]
    exact ⟨rfl, rfl⟩

end Store

/-! ### Accounts -/

section Accounts

variable {c : Change} {reported count : Nat} {h : History} {result : Option (Except Failure Answer)}

/-- How a change ends: it inserts and removes its rows if it is granted and none otherwise, and what it counts and answers is what the database keeps. Removed rows are counted as long as there are not more than doubles can count. -/
structure Accounts (c : Change) (reported : Nat) (h : History)
    (result : Option (Except Failure Answer)) : Prop where
  inserted : insertedRows h = if isGranted (replies h) then c.inserts else 0
  removed : removedRows reported h = if isGranted (replies h) then c.removes reported else 0
  written : CountsTo (RowTotal.written.amounts h) (insertedRows h)
  deleted : removedRows reported h ≤ Whole.limit →
    CountsTo (RowTotal.deleted.amounts h) (removedRows reported h) ∧
      removedCount result = removedRows reported h

theorem IsVoid.accounts (hvoid : IsVoid h) (hanswer : removedCount result = 0) :
    Accounts c reported h result := by
  have hinserted : insertedRows h = 0 := by
    rw [insertedRows, hvoid.committed]
    rfl
  have hremoved : removedRows reported h = 0 := by
    rw [removedRows, hvoid.committed]
    exact Nat.zero_mul reported
  refine ⟨?_, ?_, ?_, fun _ => ?_⟩
  · rw [hinserted, hvoid.replies]
    rfl
  · rw [hremoved, hvoid.replies]
    rfl
  · rw [hinserted, hvoid.amounts]
    exact countsTo_nil
  · rw [hremoved, hvoid.amounts]
    exact ⟨countsTo_nil, hanswer⟩

theorem Inserts.accounts (hinserts : Inserts count h) (hcount : c.inserts = count)
    (hremoves : c.removes reported = 0) (hanswer : removedCount result = 0) :
    Accounts c reported h result := by
  have hinserted : insertedRows h = count := by
    have hall : (committed h).filter (fun s => s.kind = .executeMany) = committed h :=
      List.filter_eq_self.mpr fun s hs => by simpa using hinserts.kinds s hs
    rw [insertedRows, hall]
    exact hinserts.rows
  have hremoved : removedRows reported h = 0 := by
    have hnone : (committed h).filter (fun s => s.kind = .execute) = [] :=
      List.filter_eq_nil_iff.mpr fun s hs => by simp [hinserts.kinds s hs]
    rw [removedRows, hnone]
    exact Nat.zero_mul reported
  refine ⟨?_, ?_, ?_, fun _ => ?_⟩
  · rw [hinserted, hinserts.replies, if_pos rfl, hcount]
  · rw [hremoved, hinserts.replies, if_pos rfl, hremoves]
  · rw [hinserted, hinserts.written]
    exact countsTo_singleton count
  · rw [hremoved, hinserts.deleted]
    exact ⟨countsTo_nil, hanswer⟩

theorem Removes.accounts {r : Except Failure Int} (hremoves : Removes reported h r)
    (hnone : c.inserts = 0) (hcount : c.removes reported = reported)
    (hanswer : r = .ok (reported : Int) → removedCount result = reported) :
    Accounts c reported h result := by
  obtain ⟨s, hkind, hcommitted⟩ := hremoves.statement
  have hinserted : insertedRows h = 0 := by
    rw [insertedRows, hcommitted]
    simp [hkind]
  have hremoved : removedRows reported h = reported := by
    rw [removedRows, hcommitted]
    simp [hkind]
  refine ⟨?_, ?_, ?_, fun hfits => ?_⟩
  · rw [hinserted, hremoves.replies, if_pos rfl, hnone]
  · rw [hremoved, hremoves.replies, if_pos rfl, hcount]
  · rw [hinserted, hremoves.written]
    exact countsTo_nil
  · rw [hremoved] at hfits ⊢
    obtain ⟨hdeleted, hr⟩ := hremoves.deleted hfits
    rw [hdeleted]
    exact ⟨countsTo_singleton reported, hanswer hr⟩

end Accounts

theorem removedCount_stored {α : Type} (f : α → List Value) (result : Except Failure α) :
    removedCount (some ((fun a => .stored (f a)) <$> result)) = 0 := by
  cases result <;> rfl

/-- Whatever the server does, a change ends in accordance with its accounts. -/
theorem Change.accounts_of_path {c : Change} {s : Store} {m : Memory} {h : History}
    {r : Except Failure Answer} (hpath : Path (c.program s) m h r) (hrelease : ReleasesCompleted h)
    {reported : Nat} (hreports : Reports reported h) : Accounts c reported h (some r) := by
  have hremoval : ∀ ids, Path (s.removeAll ids >>= fun count => pure (.removed count)) m h r →
      c.inserts = 0 → c.removes reported = reported → Accounts c reported h (some r) := by
    intro ids hcall hnone hcount
    obtain ⟨result, hremove, rfl⟩ := path_bind_pure_iff.mp hcall
    rcases Store.void_or_removes_of_removeAll hremove hrelease hreports with
      ⟨failure, rfl, hvoid⟩ | hremoves
    · exact hvoid.accounts rfl
    · refine hremoves.accounts hnone hcount ?_
      rintro rfl
      rfl
  cases c with
  | add embedding text metadata id =>
    obtain ⟨result, hadd, rfl⟩ := path_bind_pure_iff.mp hpath
    have hanswer := removedCount_stored (fun id => [id]) result
    rcases Store.void_or_inserts_of_add hadd hrelease with hvoid | hinserts
    · exact hvoid.accounts hanswer
    · exact hinserts.accounts rfl rfl hanswer
  | addAll insertion =>
    obtain ⟨result, hadd, rfl⟩ := path_bind_pure_iff.mp hpath
    have hanswer := removedCount_stored (fun ids => ids) result
    rcases Store.void_or_inserts_of_addAll hadd hrelease with hvoid | hinserts
    · exact hvoid.accounts hanswer
    · exact hinserts.accounts rfl rfl hanswer
  | remove id => exact hremoval (.list [id]) hpath rfl rfl
  | removeAll ids => exact hremoval ids hpath rfl rfl

end VectorTable
