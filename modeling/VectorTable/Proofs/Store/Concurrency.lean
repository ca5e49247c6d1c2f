import VectorTable.Proofs.Store.Accounting

/-!
# Changes at the same time

Changes of one store that run at the same time take turns wherever they wait for the server. A change looks around only before it contacts the server, so none of them notices the others, and each ends in accordance with its own accounts. The totals of rows add these up: they show exactly what the database keeps, and they are the same in whatever order the changes take turns.
-/

namespace VectorTable

open Program VectorTable.Metric

/-! ### Looking around first -/

section LooksFirst

variable {α β : Type}

theorem isPrelude_freshIds (items : List β) : IsPrelude (freshIds items) := by
  induction items with
  | nil => exact .done _
  | cons item items ih =>
    exact .look fun m => .tell _ (ih.bind_prelude fun ids => .done _)

namespace Store

variable {s : Store}

theorem isBlind_reportFault (operation : String) (fault : Fault) :
    IsBlind (s.reportFault operation fault : Program α) := .tell _ (.tell _ (.done _))

theorem looksFirst_operation {name : String} {attributes : Attributes} {work : Program α}
    (hwork : LooksFirst work) : LooksFirst (s.operation name attributes work) := by
  refine LooksFirst.bind (.tell _ ((hwork.settle ?_).settle ?_)) fun _ => .tell _ (.done _)
  · rintro (failure | a)
    · cases failure with
      | fault fault =>
        dsimp only
        split
        · exact isBlind_reportFault _ _
        · exact .done _
      | _ => exact .done _
    · exact .done _
  · rintro (failure | a)
    · exact .tell _ (.done _)
    · exact .tell _ (.done _)

theorem isBlind_sendChunks (sql : String) (timeout : Option (Option Float))
    (chunks : List (List (List Value))) : IsBlind (sendChunks sql timeout chunks) := by
  induction chunks with
  | nil => exact .done _
  | cons chunk chunks ih => exact (isBlind_contact _).bind fun _ => ih

theorem isPrelude_rowsNoted (records : List Record) : IsPrelude (s.schema.rowsNoted records) := by
  induction records with
  | nil => exact .done _
  | cons record records ih =>
    refine IsPrelude.bind_prelude (.done _) fun row => IsPrelude.bind_prelude ?_ fun _ =>
      ih.bind_prelude fun rows => .done _
    rw [Schema.noteDropped]
    split
    · exact .done _
    · exact .tell _ (.done _)

theorem looksFirst_insertRecords (records : List Record) : LooksFirst (s.insertRecords records) :=
  (isPrelude_rowsNoted records).bind fun _ =>
    (looksFirst_operation (isBlind_sendChunks _ _ _).inTransaction).bind fun _ =>
      .tell _ (.tell _ (.done _))

theorem looksFirst_addAll (insertion : Insertion) : LooksFirst (s.addAll insertion) := by
  rw [addAll_eq]
  refine IsPrelude.bind ?_ fun ids => ?_
  · rw [Insertion.chooseIds]
    split
    · exact .done _
    · exact isPrelude_freshIds _
  · split
    · split
      · exact .done _
      · exact IsPrelude.bind (.done _) fun records =>
          (looksFirst_insertRecords records).bind fun _ => .done _
    · exact .done _

theorem looksFirst_add (embedding : Value) (text : Option String)
    (metadata : List (String × Value)) (id : Value) :
    LooksFirst (s.add embedding text metadata id) := by
  rw [add_eq]
  refine IsPrelude.bind ?_ fun id => (looksFirst_addAll _).bind fun _ => .done _
  rw [chooseId]
  split
  · exact .done _
  · exact .look fun m => .tell _ (.done _)

theorem looksFirst_removeAll (ids : Value) : LooksFirst (s.removeAll ids) := by
  refine IsPrelude.bind (.done _) fun query => IsPrelude.bind (.done _) fun count =>
    (looksFirst_operation (isBlind_contact _).inTransaction).bind fun status => ?_
  refine IsBlind.bind (IsBlind.bind (.done _) fun _ => .tell _ (.done _)) fun _ => ?_
  exact .tell _ (.done _)

end Store

theorem Change.looksFirst_program (c : Change) (s : Store) : LooksFirst (c.program s) := by
  cases c with
  | add embedding text metadata id =>
    exact (Store.looksFirst_add embedding text metadata id).bind fun _ => .done _
  | addAll insertion => exact (Store.looksFirst_addAll insertion).bind fun _ => .done _
  | remove id => exact (Store.looksFirst_removeAll (.list [id])).bind fun _ => .done _
  | removeAll ids => exact (Store.looksFirst_removeAll ids).bind fun _ => .done _

end LooksFirst

/-! ### Adding up -/

section Totals

variable {σ : Type}

namespace Together

variable {α : Type}

/-- What each program adds to a total adds up to what all of them add. -/
theorem countsTo_events {t : Together σ α} {n : Nat} (ht : ∀ entry ∈ t.history, entry.1 < n)
    {total : RowTotal} {rows : Nat → Nat}
    (hrows : ∀ i < n, CountsTo (total.amounts (t.own i)) (rows i)) :
    CountsTo (total.amounts t.events) (∑ i ∈ Finset.range n, rows i) where
  counts amount hamount := by
    obtain ⟨i, hi, hown⟩ := exists_mem_own_of_mem_events ht (RowTotal.mem_amounts_iff.mp hamount)
    exact (hrows i hi).counts amount (RowTotal.mem_amounts_iff.mpr hown)
  sum := by
    have hcount := count_events (fun h => rowCount (total.amounts h)) (by simp [rowCount])
      (by simp [rowCount]) ht
    rw [hcount]
    exact Finset.sum_congr rfl fun i hi => (hrows i (Finset.mem_range.mp hi)).sum

/-- Changes that have taken turns until all are done, with a server that takes connections back once their transactions are completed and that reports how many rows it deletes. -/
structure IsSettled (reported : Nat → Nat) (t : Together σ Answer) : Prop where
  finished : t.IsFinished
  releases : ∀ i, ReleasesCompleted (t.own i)
  reports : ∀ i, Reports (reported i) (t.own i)

end Together

namespace Change

/-- Changes of one store that take turns in some order. -/
def together (s : Store) (changes : List Change) (server : Nat → Server σ) (state : σ) (m : Memory)
    (order : List Nat) : Together σ Answer :=
  (Together.start (changes.map (program s)) state m).run server order

variable {s : Store} {changes : List Change} {server : Nat → Server σ} {state : σ} {m : Memory}
  {order : List Nat} {reported : Nat → Nat}

theorem accounts_own (hsettled : (together s changes server state m order).IsSettled reported)
    {i : Nat} {c : Change} (hc : changes[i]? = some c) :
    Accounts c (reported i) ((together s changes server state m order).own i)
      ((together s changes server state m order).result? i) := by
  have hlooks : ∀ p ∈ changes.map (program s), LooksFirst p := by
    intro p hp
    obtain ⟨c, -, rfl⟩ := List.mem_map.mp hp
    exact c.looksFirst_program s
  have hprogram : (changes.map (program s))[i]? = some (c.program s) := by
    rw [List.getElem?_map, hc]
    rfl
  have hi : i < (together s changes server state m order).programs.length := by
    rw [together, Together.length_programs_run]
    exact (List.getElem?_eq_some_iff.mp hprogram).1
  obtain ⟨result, hresult⟩ := hsettled.finished i hi
  obtain ⟨m', hpath⟩ := Together.path_own hlooks hprogram hresult
  rw [hresult]
  exact accounts_of_path hpath (hsettled.releases i) (hsettled.reports i)

theorem lt_length_of_mem_together :
    ∀ entry ∈ (together s changes server state m order).history, entry.1 < changes.length := by
  intro entry hentry
  have hlength : (Together.start (changes.map (program s)) state m).programs.length =
      changes.length := List.length_map _
  rw [← hlength]
  refine Together.lt_length_of_mem_history (fun _ hnone => ?_) entry hentry
  cases hnone

/-- A server that always takes connections back and always reports what it deletes settles changes that are done. -/
theorem isSettled_of_server (hfinished : (together s changes server state m order).IsFinished)
    (hrelease : ∀ i state fault, (server i state .release).1 ≠ .error fault)
    (hreport : ∀ i state s status, s.kind = .execute →
      (server i state (.statement s)).1 = .ok status →
        status = .text ("DELETE " ++ toString (reported i))) :
    (together s changes server state m order).IsSettled reported := by
  have hreply : ∀ {i : Nat} {contact : Contact} {reply : Reply},
      (contact, reply) ∈ exchanges ((together s changes server state m order).own i) →
        ∃ state, (server i state contact).1 = reply := fun hmem =>
    Together.exists_state_of_mem_own (fun hnone => absurd hnone List.not_mem_nil)
      (mem_exchanges_iff.mp hmem)
  refine ⟨hfinished, fun i _ fault _ hmem => ?_, fun i s status hmem hkind => ?_⟩
  · obtain ⟨state, heq⟩ := hreply hmem
    exact hrelease i state fault heq
  · obtain ⟨state, heq⟩ := hreply hmem
    exact hreport i state s status hkind heq

/-- The totals after changes that have been settled. -/
theorem value_events (hsettled : (together s changes server state m order).IsSettled reported)
    {past : History} {written deleted : Nat}
    (hwritten : RowTotal.written.value past = Float.ofNat written)
    (hdeleted : RowTotal.deleted.value past = Float.ofNat deleted)
    (hinserted : written + ∑ i ∈ Finset.range changes.length,
      insertedRows ((together s changes server state m order).own i) ≤ Whole.limit)
    (hremoved : deleted + ∑ i ∈ Finset.range changes.length,
      removedRows (reported i) ((together s changes server state m order).own i) ≤ Whole.limit) :
    RowTotal.written.value (past ++ (together s changes server state m order).events) =
        Float.ofNat (written + ∑ i ∈ Finset.range changes.length,
          insertedRows ((together s changes server state m order).own i)) ∧
      RowTotal.deleted.value (past ++ (together s changes server state m order).events) =
        Float.ofNat (deleted + ∑ i ∈ Finset.range changes.length,
          removedRows (reported i) ((together s changes server state m order).own i)) ∧
      ∑ i ∈ Finset.range changes.length,
          removedCount ((together s changes server state m order).result? i) =
        ∑ i ∈ Finset.range changes.length,
          (removedRows (reported i) ((together s changes server state m order).own i) : Int) := by
  have haccounts : ∀ i (hi : i < changes.length), Accounts changes[i] (reported i)
      ((together s changes server state m order).own i)
      ((together s changes server state m order).result? i) :=
    fun i hi => accounts_own hsettled (List.getElem?_eq_getElem hi)
  generalize hrun : together s changes server state m order = t at *
  have htags : ∀ entry ∈ t.history, entry.1 < changes.length := by
    rw [← hrun]
    exact lt_length_of_mem_together
  -- No change removes more rows than all of them together.
  have hfits : ∀ i < changes.length, removedRows (reported i) (t.own i) ≤ Whole.limit := by
    intro i hi
    have hone : removedRows (reported i) (t.own i) ≤
        ∑ i ∈ Finset.range changes.length, removedRows (reported i) (t.own i) :=
      Finset.single_le_sum (f := fun i => removedRows (reported i) (t.own i))
        (fun _ _ => Nat.zero_le _) (Finset.mem_range.mpr hi)
    omega
  refine ⟨?_, ?_, ?_⟩
  · have hcounts := Together.countsTo_events htags fun i hi => (haccounts i hi).written
    exact RowTotal.value_append hwritten hcounts hinserted
  · have hcounts := Together.countsTo_events htags fun i hi =>
      ((haccounts i hi).deleted (hfits i hi)).1
    exact RowTotal.value_append hdeleted hcounts hremoved
  · refine Finset.sum_congr rfl fun i hi => ?_
    have hi' := Finset.mem_range.mp hi
    exact ((haccounts i hi').deleted (hfits i hi')).2

/-- What the database keeps of a change depends on the replies to it alone. -/
theorem rows_eq_of_replies {σ' : Type} {server' : Nat → Server σ'} {state' : σ'} {m' : Memory}
    {order' : List Nat} (hsettled : (together s changes server state m order).IsSettled reported)
    (hsettled' : (together s changes server' state' m' order').IsSettled reported) {i : Nat}
    (hi : i < changes.length)
    (hreplies : replies ((together s changes server' state' m' order').own i) =
      replies ((together s changes server state m order).own i)) :
    insertedRows ((together s changes server' state' m' order').own i) =
        insertedRows ((together s changes server state m order).own i) ∧
      removedRows (reported i) ((together s changes server' state' m' order').own i) =
        removedRows (reported i) ((together s changes server state m order).own i) := by
  have haccounts := accounts_own hsettled (List.getElem?_eq_getElem hi)
  have haccounts' := accounts_own hsettled' (List.getElem?_eq_getElem hi)
  rw [haccounts.inserted, haccounts.removed, haccounts'.inserted, haccounts'.removed, hreplies]
  exact ⟨rfl, rfl⟩

/-- Changes of one store run at the same time, in any order and with any faults, until all are done. As long as the totals stay within the whole numbers that doubles hold, the rows written grow by the number of rows that are committed, and the rows deleted grow by the number that the committed deletions report, which is also the sum of the answers; and another run in which every change gets the same replies leaves the same totals. Each total is what is shown under its name, and nothing else is. -/
theorem totals_together (s : Store) (changes : List Change) (server : Nat → Server σ) (state : σ)
    (m : Memory) (order : List Nat) {reported : Nat → Nat} {past : History} {written deleted : Nat}
    (hsettled : (together s changes server state m order).IsSettled reported)
    (hwritten : RowTotal.written.value past = Float.ofNat written)
    (hdeleted : RowTotal.deleted.value past = Float.ofNat deleted)
    (hinserted : written + ∑ i ∈ Finset.range changes.length,
      insertedRows ((together s changes server state m order).own i) ≤ 2 ^ 53)
    (hremoved : deleted + ∑ i ∈ Finset.range changes.length,
      removedRows (reported i) ((together s changes server state m order).own i) ≤ 2 ^ 53) :
    let t := together s changes server state m order
    RowTotal.written.value (past ++ t.events) =
        Float.ofNat (written + ∑ i ∈ Finset.range changes.length, insertedRows (t.own i)) ∧
      RowTotal.deleted.value (past ++ t.events) =
        Float.ofNat (deleted +
          ∑ i ∈ Finset.range changes.length, removedRows (reported i) (t.own i)) ∧
      ∑ i ∈ Finset.range changes.length, removedCount (t.result? i) =
        ∑ i ∈ Finset.range changes.length, (removedRows (reported i) (t.own i) : Int) ∧
      (∀ (τ : Type) (server' : Nat → Server τ) (state' : τ) (m' : Memory) (order' : List Nat),
        let t' := together s changes server' state' m' order'
        t'.IsSettled reported →
        (∀ i < changes.length, replies (t'.own i) = replies (t.own i)) →
        ∀ total : RowTotal, total.value (past ++ t'.events) = total.value (past ++ t.events)) ∧
      ∀ (total : RowTotal) (sample : Sample), sample.name = total.name →
        (sample ∈ samples (measurements (past ++ t.events)) ↔
          sample = ⟨total.name, [], total.value (past ++ t.events)⟩) := by
  intro t
  obtain ⟨hvalueWritten, hvalueDeleted, hanswers⟩ :=
    value_events hsettled hwritten hdeleted hinserted hremoved
  refine ⟨hvalueWritten, hvalueDeleted, hanswers, ?_,
    fun total sample hname => RowTotal.mem_samples_iff hname⟩
  intro τ server' state' m' order' t' hsettled' hreplies total
  have hrows : ∀ i ∈ Finset.range changes.length, _ := fun i hi =>
    rows_eq_of_replies hsettled hsettled' (Finset.mem_range.mp hi)
      (hreplies i (Finset.mem_range.mp hi))
  -- The database keeps the same of each change, so the sums agree and fit again.
  have hsumInserted : ∑ i ∈ Finset.range changes.length, insertedRows (t'.own i) =
      ∑ i ∈ Finset.range changes.length, insertedRows (t.own i) :=
    Finset.sum_congr rfl fun i hi => (hrows i hi).1
  have hsumRemoved : ∑ i ∈ Finset.range changes.length, removedRows (reported i) (t'.own i) =
      ∑ i ∈ Finset.range changes.length, removedRows (reported i) (t.own i) :=
    Finset.sum_congr rfl fun i hi => (hrows i hi).2
  obtain ⟨hvalueWritten', hvalueDeleted', -⟩ := value_events hsettled' hwritten hdeleted
    (by rw [hsumInserted]; exact hinserted) (by rw [hsumRemoved]; exact hremoved)
  cases total with
  | written => rw [hvalueWritten', hvalueWritten, hsumInserted]
  | deleted => rw [hvalueDeleted', hvalueDeleted, hsumRemoved]

/-- Two rows are inserted while others are deleted, and a third insertion is cancelled at its only statement. -/
theorem totals_together_cancelled :
    let s : Store := ⟨⟨Draft.ofTable "t", by decide⟩, .cosine, none,
      ⟨⟨4, by decide⟩, none, ⟨2, by decide⟩⟩⟩
    let changes : List Change := [
      .addAll ⟨[.list [], .list []], none, none, some [.text "a", .text "b"]⟩,
      .remove (.text "c"),
      .add (.list []) none [] (.text "d")]
    let server : Nat → Server Unit := fun i _ contact => match i, contact with
      | 2, .statement _ => (.error ⟨.cancelled, none, none, none, by decide⟩, ())
      | _, .statement _ => (.ok (.text ("DELETE " ++ toString 3)), ())
      | _, _ => (.ok .null, ())
    let t := together s changes server () ⟨true, 0, true⟩
      [0, 1, 2, 2, 1, 0, 1, 0, 2, 2, 0, 0, 1, 1, 2, 0, 2, 1]
    t.IsSettled (fun _ => 3) ∧ RowTotal.written.value t.events = Float.ofNat 2 ∧
      RowTotal.deleted.value t.events = Float.ofNat 3 := by
  intro s changes server t
  have hfinished : t.IsFinished := by
    intro i hi
    have hlength : t.programs.length = 3 := Together.length_programs_run _ _ _
    obtain rfl | rfl | rfl : i = 0 ∨ i = 1 ∨ i = 2 := by omega
    · exact Option.isSome_iff_exists.mp (by decide +kernel)
    · exact Option.isSome_iff_exists.mp (by decide +kernel)
    · exact Option.isSome_iff_exists.mp (by decide +kernel)
  have hsettled : t.IsSettled fun _ => 3 := by
    refine isSettled_of_server hfinished ?_ ?_
    · rintro (_ | _ | _ | i) state fault ⟨⟩
    · rintro (_ | _ | _ | i) state statement status hkind ⟨⟩ <;> rfl
  have hinserted : 0 + ∑ i ∈ Finset.range changes.length, insertedRows (t.own i) = 2 := by
    decide +kernel
  have hremoved : 0 + ∑ i ∈ Finset.range changes.length, removedRows 3 (t.own i) = 3 := by
    decide +kernel
  have hnothing : ∀ total : RowTotal, total.value [] = Float.ofNat 0 := fun total => by
    cases total <;> rfl
  obtain ⟨hwritten, hdeleted, -⟩ := totals_together s changes server () ⟨true, 0, true⟩ _
    hsettled (hnothing _) (hnothing _) (hinserted.le.trans (by decide))
    (hremoved.le.trans (by decide))
  rw [List.nil_append] at hwritten hdeleted
  exact ⟨hsettled, hwritten.trans (congrArg Float.ofNat hinserted),
    hdeleted.trans (congrArg Float.ofNat hremoved)⟩

/-- After a deletion of as many rows as a double can count one by one, two more rows are deleted by two more changes, and the total does not show them. -/
theorem totals_together_large :
    let s : Store := ⟨⟨Draft.ofTable "t", by decide⟩, .cosine, none,
      ⟨⟨4, by decide⟩, none, ⟨2, by decide⟩⟩⟩
    let changes : List Change := [.remove (.text "a"), .remove (.text "b"), .remove (.text "c")]
    let reported : Nat → Nat := fun i => if i = 0 then 2 ^ 53 else 1
    let server : Nat → Server Unit := fun i _ contact => match contact with
      | .statement _ => (.ok (.text ("DELETE " ++ toString (reported i))), ())
      | _ => (.ok .null, ())
    let t := together s changes server () ⟨true, 0, true⟩
      [0, 0, 0, 0, 0, 0, 1, 1, 1, 1, 1, 1, 2, 2, 2, 2, 2, 2]
    t.IsSettled reported ∧
      ∑ i ∈ Finset.range changes.length, removedRows (reported i) (t.own i) = 2 ^ 53 + 2 ∧
      RowTotal.deleted.value [] = 0 ∧
      RowTotal.deleted.value t.events ≠ Float.ofNat (2 ^ 53 + 2) := by
  intro s changes reported server t
  have hfinished : t.IsFinished := by
    intro i hi
    have hlength : t.programs.length = 3 := Together.length_programs_run _ _ _
    obtain rfl | rfl | rfl : i = 0 ∨ i = 1 ∨ i = 2 := by omega
    · exact Option.isSome_iff_exists.mp (by decide +kernel)
    · exact Option.isSome_iff_exists.mp (by decide +kernel)
    · exact Option.isSome_iff_exists.mp (by decide +kernel)
  refine ⟨?_, by decide +kernel, rfl, by decide +kernel⟩
  refine isSettled_of_server hfinished ?_ ?_
  · rintro i state fault ⟨⟩
  · rintro i state statement status hkind ⟨⟩
    rfl

end Change

end Totals

end VectorTable
