import VectorTable.Proofs.Failure.Steps
import VectorTable.Proofs.Store.Operation
import VectorTable.Store.Write

/-!
# Batched insertion

An insertion is all or nothing, whatever the server does. If it succeeds, its rows are committed, each once and in the order of the records, in one transaction with one statement for each chunk; if it fails, nothing is committed and no rows are counted. The chunks neither lose nor repeat a row, whatever the number of rows and the size of a chunk.
-/

namespace VectorTable

open Program

/-! ### Chunks -/

section Chunks

variable {α : Type}

theorem flatten_chunksOf (size : Nat) (items : List α) : (chunksOf size items).flatten = items := by
  induction items using chunksOf.induct size with
  | case1 => simp [chunksOf]
  | case2 x xs ih => rw [chunksOf, List.flatten_cons, ih, List.cons_append, List.take_append_drop]

theorem length_of_mem_chunksOf {size : Nat} (hsize : 0 < size) {items chunk : List α}
    (hchunk : chunk ∈ chunksOf size items) : 0 < chunk.length ∧ chunk.length ≤ size := by
  induction items using chunksOf.induct size with
  | case1 => simp [chunksOf] at hchunk
  | case2 x xs ih =>
    rw [chunksOf] at hchunk
    rcases List.mem_cons.mp hchunk with rfl | hrest
    · rw [List.length_cons, List.length_take]
      omega
    · exact ih hrest

theorem length_of_mem_dropLast_chunksOf {size : Nat} (hsize : 0 < size) {items chunk : List α}
    (hchunk : chunk ∈ (chunksOf size items).dropLast) : chunk.length = size := by
  induction items using chunksOf.induct size with
  | case1 => simp [chunksOf] at hchunk
  | case2 x xs ih =>
    rw [chunksOf] at hchunk
    cases hdrop : xs.drop (size - 1) with
    | nil =>
      rw [hdrop] at hchunk
      simp [chunksOf] at hchunk
    | cons y ys =>
      have hlong : size - 1 < xs.length := by
        have hpositive : 0 < (xs.drop (size - 1)).length := by simp [hdrop]
        rw [List.length_drop] at hpositive
        omega
      have hne : chunksOf size (xs.drop (size - 1)) ≠ [] := by
        rw [hdrop, chunksOf]
        exact List.cons_ne_nil _ _
      rw [List.dropLast_cons_of_ne_nil hne] at hchunk
      rcases List.mem_cons.mp hchunk with rfl | hrest
      · rw [List.length_cons, List.length_take]
        omega
      · exact ih hrest

end Chunks

/-! ### The parts of an insertion -/

/-- Histories without contacts that count no rows as written. -/
def IsQuiet (h : History) : Prop :=
  exchanges h = [] ∧ Metric.writtenAmounts (Metric.measurements h) = []

theorem isQuiet_nil : IsQuiet [] := ⟨rfl, rfl⟩

theorem IsQuiet.append {h₁ h₂ : History} (hfirst : IsQuiet h₁) (hsecond : IsQuiet h₂) :
    IsQuiet (h₁ ++ h₂) :=
  ⟨by simp [hfirst.1, hsecond.1], by simp [hfirst.2, hsecond.2]⟩

theorem Program.path_freshIds {β : Type} {items : List β} {m : Memory} {h : History}
    {r : Except Failure (List Value)} (hpath : Path (freshIds items) m h r) :
    IsQuiet h ∧ ∃ ids, r = .ok ids ∧ ids.length = items.length := by
  induction items generalizing m h r with
  | nil =>
    obtain ⟨rfl, rfl⟩ := path_done_iff.mp hpath
    exact ⟨isQuiet_nil, [], rfl, rfl⟩
  | cons item items ih =>
    obtain ⟨rest, rfl, hrest⟩ := path_tell_iff.mp (path_look_iff.mp hpath)
    rcases path_bind_iff.mp hrest with ⟨failure, hmore, rfl⟩ | ⟨hm, hlast, ids, rfl, hmore, hend⟩
    · obtain ⟨-, ids, heq, -⟩ := ih hmore
      cases heq
    · obtain ⟨rfl, rfl⟩ := path_done_iff.mp hend
      obtain ⟨hquiet, ids', heq, hlength⟩ := ih hmore
      cases heq
      refine ⟨⟨by simp [hquiet.1], by simp [hquiet.2]⟩, _, rfl, ?_⟩
      rw [List.length_cons, List.length_cons, hlength]

theorem Schema.path_noteDropped {s : Schema} {record : Record} {m : Memory} {h : History}
    {r : Except Failure Unit} (hpath : Path (s.noteDropped record) m h r) :
    IsQuiet h ∧ r = .ok () := by
  rw [noteDropped] at hpath
  split at hpath
  · obtain ⟨rfl, rfl⟩ := path_done_iff.mp hpath
    exact ⟨isQuiet_nil, rfl⟩
  · obtain ⟨rest, rfl, hrest⟩ := path_tell_iff.mp hpath
    obtain ⟨rfl, rfl⟩ := path_done_iff.mp hrest
    exact ⟨⟨rfl, rfl⟩, rfl⟩

theorem Schema.path_rowsNoted {s : Schema} {records : List Record} {m : Memory} {h : History}
    {r : Except Failure (List (List Value))} (hpath : Path (s.rowsNoted records) m h r) :
    IsQuiet h ∧ r = records.mapM s.row := by
  induction records generalizing m h r with
  | nil =>
    obtain ⟨rfl, rfl⟩ := path_done_iff.mp hpath
    exact ⟨isQuiet_nil, rfl⟩
  | cons record records ih =>
    rw [List.mapM_cons]
    rcases path_bind_iff.mp hpath with ⟨failure, hrow, rfl⟩ | ⟨h₁, h₂, row, rfl, hrow, hrest⟩
    · obtain ⟨rfl, hresult⟩ := path_done_iff.mp hrow
      rw [← hresult]
      exact ⟨isQuiet_nil, rfl⟩
    · obtain ⟨rfl, hresult⟩ := path_done_iff.mp hrow
      rw [← hresult]
      rcases path_bind_iff.mp hrest with ⟨failure, hnote, -⟩ | ⟨h₃, h₄, _, rfl, hnote, hmore⟩
      · cases (path_noteDropped hnote).2
      · have hquiet := (path_noteDropped hnote).1
        rcases path_bind_iff.mp hmore with ⟨failure, hrows, rfl⟩ | ⟨h₅, h₆, rows, rfl, hrows, hlast⟩
        · obtain ⟨hrestQuiet, hrestResult⟩ := ih hrows
          rw [← hrestResult]
          exact ⟨hquiet.append hrestQuiet, rfl⟩
        · obtain ⟨hrestQuiet, hrestResult⟩ := ih hrows
          obtain ⟨rfl, rfl⟩ := path_done_iff.mp hlast
          rw [← hrestResult]
          exact ⟨hquiet.append (hrestQuiet.append isQuiet_nil), rfl⟩

theorem Store.path_sendChunks {sql : String} {timeout : Option (Option Float)}
    {chunks : List (List (List Value))} {m : Memory} {h : History} {r : Except Failure Unit}
    (hpath : Path (sendChunks sql timeout chunks) m h r) :
    OnlyStatements (exchanges h) ∧ Metric.writtenAmounts (Metric.measurements h) = [] ∧
      (r = .ok () → (exchanges h).map Prod.fst =
        chunks.map (fun chunk => .statement ⟨.executeMany, sql, chunk, timeout⟩) ∧
        answered (exchanges h) = chunks.map fun chunk => ⟨.executeMany, sql, chunk, timeout⟩) := by
  induction chunks generalizing m h r with
  | nil =>
    obtain ⟨rfl, rfl⟩ := path_done_iff.mp hpath
    exact ⟨onlyStatements_nil, rfl, fun _ => ⟨rfl, rfl⟩⟩
  | cons chunk chunks ih =>
    rcases path_contact_bind_iff.mp hpath with ⟨fault, rfl, rfl⟩ | ⟨value, rest, rfl, hrest⟩
    · exact ⟨onlyStatements_nil.cons _ _, rfl, fun heq => by cases heq⟩
    · obtain ⟨honly, hwritten, hdone⟩ := ih hrest
      refine ⟨honly.cons _ _, hwritten, fun hr => ?_⟩
      obtain ⟨hsent, hanswered⟩ := hdone hr
      exact ⟨congrArg (_ :: ·) hsent, congrArg (_ :: ·) hanswered⟩

theorem Program.writtenAmounts_inTransaction {α : Type} {work : Program α} {m : Memory}
    {h : History} {r : Except Failure α} (hpath : Path (inTransaction work) m h r)
    (hwork : ∀ hw result, Path work m hw result →
      Metric.writtenAmounts (Metric.measurements hw) = []) :
    Metric.writtenAmounts (Metric.measurements h) = [] := by
  rcases path_inTransaction hpath with ⟨-, rfl, -⟩ | ⟨fault, rfl, -⟩ | ⟨value, fault, reply, rfl, -⟩ |
    ⟨acquired, entered, hw, result, closed, released, hresult, rfl, -⟩
  · rfl
  · rfl
  · rfl
  · simp [hwork hw result hresult]

namespace Store

/-- The statements of an insertion, one for each chunk of the rows. -/
def insertStatements (s : Store) (rows : List (List Value)) : List Statement :=
  (chunksOf s.settings.batchRows rows).map fun chunk =>
    ⟨.executeMany, Sql.render s.schema.insertPieces, chunk, s.timeout⟩

theorem path_insertRecords {s : Store} {records : List Record} {m : Memory} {h : History}
    {r : Except Failure Unit} (hpath : Path (s.insertRecords records) m h r)
    (hrelease : ∀ fault, (.release, .error fault) ∉ exchanges h) :
    (∃ failure, r = .error failure ∧ committed h = [] ∧
        Metric.writtenAmounts (Metric.measurements h) = []) ∨
      ∃ rows, r = .ok () ∧ records.mapM s.schema.row = .ok rows ∧
        committed h = s.insertStatements rows ∧
        (exchanges h).map Prod.fst = [.acquire, .enter .transaction] ++
          (s.insertStatements rows).map .statement ++ [.complete .transaction, .release] := by
  rcases path_bind_iff.mp hpath with ⟨failure, hrows, rfl⟩ | ⟨h₁, h₂, rows, rfl, hrows, hrest⟩
  · obtain ⟨⟨hcontacts, hwritten⟩, -⟩ := Schema.path_rowsNoted hrows
    exact .inl ⟨failure, rfl, by rw [committed, hcontacts]; rfl, hwritten⟩
  obtain ⟨⟨hcontacts, hwritten⟩, hresult⟩ := Schema.path_rowsNoted hrows
  rcases path_bind_iff.mp hrest with ⟨failure, hoperation, rfl⟩ | ⟨h₃, h₄, _, rfl, hoperation, hlast⟩
  · obtain ⟨hw, result, hwork, hr, hsame, hcounted⟩ := exists_path_of_operation hoperation
    have hexchanges : exchanges (h₁ ++ h₂) = exchanges hw := by simp [hcontacts, hsame]
    rw [hexchanges] at hrelease
    rcases committed_inTransaction hwork (fun _ _ hsend => (path_sendChunks hsend).1)
        (fun _ fault _ => hrelease fault) with
      ⟨_, -, hcommitted⟩ | ⟨_, _, _, _, _, _, rfl, _⟩
    · have huncounted := writtenAmounts_inTransaction hwork fun _ _ hsend => (path_sendChunks hsend).2.1
      replace hcounted : Metric.writtenAmounts (Metric.measurements h₂) =
          Metric.writtenAmounts (Metric.measurements hw) := hcounted .written
      refine .inl ⟨failure, rfl, (committed_congr hexchanges).trans hcommitted, ?_⟩
      simp [hwritten, hcounted, huncounted]
    · cases hr
  · obtain ⟨_, rfl, hlog⟩ := path_tell_iff.mp hlast
    obtain ⟨_, rfl, hend⟩ := path_tell_iff.mp hlog
    obtain ⟨rfl, rfl⟩ := path_done_iff.mp hend
    obtain ⟨hw, result, hwork, hr, hsame, -⟩ := exists_path_of_operation hoperation
    have hexchanges : ∀ notes, exchanges notes = [] →
        exchanges (h₁ ++ (h₃ ++ notes)) = exchanges hw := by
      intro notes hnotes
      simp [hcontacts, hsame, hnotes]
    rw [hexchanges _ rfl] at hrelease
    rcases committed_inTransaction hwork (fun _ _ hsend => (path_sendChunks hsend).1)
        (fun _ fault _ => hrelease fault) with
      ⟨_, rfl, -⟩ | ⟨_, hs, _, _, _, _, rfl, hsend, hin, hcommitted⟩
    · cases hr
    · obtain ⟨hsent, hanswered⟩ := (path_sendChunks hsend).2.2 rfl
      refine .inr ⟨rows, rfl, hresult.symm, ?_, ?_⟩
      · rw [committed_congr (hexchanges _ rfl), hcommitted, hanswered, insertStatements]
      · rw [hexchanges _ rfl, hin, insertStatements, List.map_map]
        simp [hsent, Function.comp_def]

/-! ### Whole insertions -/

namespace Insertion

/-- The texts of an insertion, none for each vector if none are given. -/
def allTexts (insertion : Insertion) : List (Option String) :=
  insertion.texts.getD (List.replicate insertion.embeddings.length none)

/-- The metadata of an insertion, empty for each vector if none are given. -/
def allMetadata (insertion : Insertion) : List (List (String × Value)) :=
  insertion.metadata.getD (List.replicate insertion.embeddings.length [])

structure Aligned (insertion : Insertion) : Prop where
  ids : ∀ ids ∈ insertion.ids, ids.length = insertion.embeddings.length
  texts : ∀ texts ∈ insertion.texts, texts.length = insertion.embeddings.length
  metadata : ∀ metadata ∈ insertion.metadata, metadata.length = insertion.embeddings.length

theorem Aligned.length_allTexts {insertion : Insertion} (h : insertion.Aligned) :
    insertion.allTexts.length = insertion.embeddings.length := by
  rw [allTexts]
  cases htexts : insertion.texts with
  | none => exact List.length_replicate
  | some texts => exact h.texts texts htexts

theorem Aligned.length_allMetadata {insertion : Insertion} (h : insertion.Aligned) :
    insertion.allMetadata.length = insertion.embeddings.length := by
  rw [allMetadata]
  cases hmetadata : insertion.metadata with
  | none => exact List.length_replicate
  | some metadata => exact h.metadata metadata hmetadata

end Insertion

theorem map_id_records {embeddings : List Value} {texts : List (Option String)}
    {metadata : List (List (String × Value))} {ids : List Value} {records : List Record}
    (htexts : texts.length = embeddings.length) (hmetadata : metadata.length = embeddings.length)
    (hids : ids.length = embeddings.length)
    (h : Store.records embeddings texts metadata ids = .ok records) :
    records.map Record.id = ids := by
  have hfirst : (ids.zip (embeddings.zip (texts.zip metadata))).map Prod.fst = ids :=
    List.map_fst_zip (by simp [htexts, hmetadata, hids])
  rw [← map_eq_map_of_mapM ?_ h, hfirst]
  rintro ⟨id, embedding, text, metadata⟩ record hrecord
  obtain ⟨items, -, hrecord⟩ := bind_eq_ok_iff.mp hrecord
  cases hrecord
  rfl

theorem head?_rows {schema : Schema} {records : List Record} {rows : List (List Value)}
    (h : records.mapM schema.row = .ok rows) :
    rows.map List.head? = (records.map Record.id).map some := by
  rw [List.map_map, map_eq_map_of_mapM ?_ h]
  intro record row hrow
  obtain ⟨vector, -, hrow⟩ := bind_eq_ok_iff.mp hrow
  obtain ⟨json, -, hrow⟩ := bind_eq_ok_iff.mp hrow
  cases hrow
  rfl

/-- The identifiers of an insertion: those that are given, or new ones. -/
def Insertion.chooseIds (insertion : Insertion) : Program (List Value) :=
  match insertion.ids with
  | some ids => pure ids
  | none => freshIds insertion.embeddings

theorem addAll_eq (s : Store) (insertion : Insertion) :
    s.addAll insertion = insertion.chooseIds >>= fun ids =>
      if ids.length = insertion.embeddings.length ∧
          insertion.embeddings.length = insertion.allTexts.length ∧
          insertion.allTexts.length = insertion.allMetadata.length then
        if insertion.embeddings.length = 0 then pure []
        else Program.ofExcept (Store.records insertion.embeddings insertion.allTexts
            insertion.allMetadata ids) >>= fun records =>
          s.insertRecords records >>= fun _ => pure ids
      else Program.fail (.misconfigured (.lengthsDiffer ids.length insertion.embeddings.length
        insertion.allTexts.length insertion.allMetadata.length) (some ⟨s.table, "add_all"⟩)) := by
  rw [addAll, Insertion.chooseIds]
  cases insertion.ids <;> rfl

theorem path_chooseIds {insertion : Insertion} (haligned : insertion.Aligned) {m : Memory}
    {h : History} {r : Except Failure (List Value)} (hpath : Path insertion.chooseIds m h r) :
    IsQuiet h ∧ ∃ ids, r = .ok ids ∧ ids.length = insertion.embeddings.length ∧
      ∀ given ∈ insertion.ids, ids = given := by
  rw [Insertion.chooseIds] at hpath
  cases hids : insertion.ids with
  | none =>
    rw [hids] at hpath
    obtain ⟨hquiet, ids, rfl, hlength⟩ := path_freshIds hpath
    exact ⟨hquiet, ids, rfl, hlength, fun given hgiven => by cases hgiven⟩
  | some ids =>
    rw [hids] at hpath
    obtain ⟨rfl, rfl⟩ := path_done_iff.mp hpath
    exact ⟨isQuiet_nil, ids, rfl, haligned.ids ids hids, fun given hgiven => by cases hgiven; rfl⟩

theorem path_addAll {s : Store} {insertion : Insertion} (haligned : insertion.Aligned) {m : Memory}
    {h : History} {r : Except Failure (List Value)} (hpath : Path (s.addAll insertion) m h r)
    (hrelease : ∀ fault, (.release, .error fault) ∉ exchanges h) :
    (∃ failure, r = .error failure ∧ committed h = [] ∧
        Metric.writtenAmounts (Metric.measurements h) = []) ∨
      ∃ ids records rows, r = .ok ids ∧ ids.length = insertion.embeddings.length ∧
        (∀ given ∈ insertion.ids, ids = given) ∧
        Store.records insertion.embeddings insertion.allTexts insertion.allMetadata ids =
          .ok records ∧
        records.mapM s.schema.row = .ok rows ∧ committed h = s.insertStatements rows ∧
        (exchanges h).map Prod.fst = if rows = [] then [] else
          [.acquire, .enter .transaction] ++ (s.insertStatements rows).map .statement
            ++ [.complete .transaction, .release] := by
  rw [addAll_eq] at hpath
  rcases path_bind_iff.mp hpath with ⟨failure, hchoice, rfl⟩ | ⟨h₁, h₂, ids, rfl, hchoice, hrest⟩
  · obtain ⟨-, ids, heq, -⟩ := path_chooseIds haligned hchoice
    cases heq
  -- Choosing the identifiers neither contacts the server nor counts anything.
  obtain ⟨⟨hcontacts, hwritten⟩, ids', heq, hlength, hgiven⟩ := path_chooseIds haligned hchoice
  cases heq
  have hexchanges : exchanges (h₁ ++ h₂) = exchanges h₂ := by simp [hcontacts]
  have hcounted : Metric.writtenAmounts (Metric.measurements (h₁ ++ h₂)) =
      Metric.writtenAmounts (Metric.measurements h₂) := by simp [hwritten]
  rw [hexchanges, hcounted, committed_congr hexchanges]
  rw [hexchanges] at hrelease
  have hlengths : ids.length = insertion.embeddings.length ∧
      insertion.embeddings.length = insertion.allTexts.length ∧
      insertion.allTexts.length = insertion.allMetadata.length := by
    rw [haligned.length_allTexts, haligned.length_allMetadata]
    exact ⟨hlength, rfl, rfl⟩
  rw [if_pos hlengths] at hrest
  by_cases hnone : insertion.embeddings.length = 0
  · rw [if_pos hnone] at hrest
    obtain ⟨rfl, rfl⟩ := path_done_iff.mp hrest
    have hids : ids = [] := List.eq_nil_of_length_eq_zero (hlength.trans hnone)
    subst hids
    refine .inr ⟨[], [], [], rfl, hlength, hgiven, rfl, rfl, ?_, rfl⟩
    rw [insertStatements, chunksOf]
    rfl
  · rw [if_neg hnone] at hrest
    rcases path_bind_iff.mp hrest with ⟨failure, hfail, rfl⟩ | ⟨h₃, h₄, records, rfl, hrecords, hmore⟩
    · obtain ⟨rfl, -⟩ := path_done_iff.mp hfail
      exact .inl ⟨failure, rfl, rfl, rfl⟩
    obtain ⟨rfl, hsome⟩ := path_done_iff.mp hrecords
    rw [List.nil_append] at hrelease ⊢
    rcases path_bind_iff.mp hmore with ⟨failure, hfail, rfl⟩ | ⟨h₅, h₆, _, rfl, hinsert, hlast⟩
    · rcases path_insertRecords hfail hrelease with ⟨_, -, hnothing⟩ | ⟨_, heq, _⟩
      · exact .inl ⟨failure, rfl, hnothing⟩
      · cases heq
    · obtain ⟨rfl, rfl⟩ := path_done_iff.mp hlast
      rw [List.append_nil] at hrelease ⊢
      rcases path_insertRecords hinsert hrelease with ⟨_, heq, _⟩ |
        ⟨rows, -, hrows, hcommitted, hsent⟩
      · cases heq
      · have hne : rows ≠ [] := by
          rintro rfl
          have hheads := head?_rows hrows
          rw [map_id_records (hlengths.2.1.symm) (haligned.length_allMetadata) hlength
            hsome.symm] at hheads
          have hids : ids = [] := by simpa using hheads.symm
          exact hnone (by rw [← hlength, hids]; rfl)
        refine .inr ⟨ids, records, rows, rfl, hlength, hgiven, hsome.symm, hrows, hcommitted, ?_⟩
        rw [if_neg hne, hsent]

/-- An insertion that succeeds commits the rows of its records, each once and in order, in chunks of one transaction, and gives their identifiers; an insertion that fails commits nothing and counts no rows as written. -/
theorem run_addAll {σ : Type} (s : Store) {insertion : Insertion} (haligned : insertion.Aligned)
    (server : Server σ) (state : σ) (m : Memory)
    (hrelease : ∀ fault, (.release, .error fault) ∉
      exchanges ((s.addAll insertion).run server state m).history) :
    let run := (s.addAll insertion).run server state m
    (∀ failure, run.result = .error failure → committedRows run.history = [] ∧
      Metric.writtenAmounts (Metric.measurements run.history) = []) ∧
    ∀ ids, run.result = .ok ids → (∀ given ∈ insertion.ids, ids = given) ∧
      ∃ records batch chunks,
        Store.records insertion.embeddings insertion.allTexts insertion.allMetadata ids =
          .ok records ∧
        s.schema.insert records = .ok batch ∧ batch.rows.map List.head? = ids.map some ∧
        committedRows run.history = batch.rows ∧ chunks.flatten = batch.rows ∧
        (∀ chunk ∈ chunks, chunk ≠ [] ∧ chunk.length ≤ s.settings.batchRows) ∧
        (∀ chunk ∈ chunks.dropLast, chunk.length = s.settings.batchRows) ∧
        (exchanges run.history).map Prod.fst = if chunks = [] then [] else
          [.acquire, .enter .transaction]
            ++ chunks.map (fun chunk => .statement ⟨.executeMany, batch.sql, chunk, s.timeout⟩)
            ++ [.complete .transaction, .release] := by
  have hsize : 0 < s.settings.batchRows := by
    have hleast := s.settings.batchSize.property.1
    rw [Setting.Store.batchRows]
    omega
  intro run
  have hpath : Path (s.addAll insertion) m run.history run.result := path_run server _ state m
  refine ⟨fun failure hfailure => ?_, fun ids hids => ?_⟩
  · rcases path_addAll haligned hpath hrelease with ⟨_, -, hcommitted, hwritten⟩ | ⟨_, _, _, heq, _⟩
    · exact ⟨by rw [committedRows, hcommitted]; rfl, hwritten⟩
    · rw [hfailure] at heq
      cases heq
  · rcases path_addAll haligned hpath hrelease with ⟨_, heq, _⟩ |
      ⟨ids', records, rows, heq, hlength, hgiven, hrecords, hrows, hcommitted, hsent⟩
    · rw [hids] at heq
      cases heq
    · rw [hids] at heq
      cases heq
      refine ⟨hgiven, records, ⟨s.schema.insertPieces, rows⟩, chunksOf s.settings.batchRows rows,
        hrecords, ?_, ?_, ?_, flatten_chunksOf _ rows, fun chunk hchunk => ?_,
        fun chunk hchunk => length_of_mem_dropLast_chunksOf hsize hchunk, ?_⟩
      · rw [Schema.insert, hrows]
        rfl
      · rw [head?_rows hrows, map_id_records haligned.length_allTexts haligned.length_allMetadata
          hlength hrecords]
      · rw [committedRows, hcommitted, insertStatements, List.flatMap_map, List.flatMap_id']
        exact flatten_chunksOf _ rows
      · obtain ⟨hpositive, hmost⟩ := length_of_mem_chunksOf hsize hchunk
        exact ⟨List.ne_nil_of_length_pos hpositive, hmost⟩
      · rw [hsent, insertStatements, List.map_map]
        cases rows with
        | nil => simp [chunksOf]
        | cons row rows =>
          have hne : chunksOf s.settings.batchRows (row :: rows) ≠ [] := by
            rw [chunksOf]
            exact List.cons_ne_nil _ _
          rw [if_neg (List.cons_ne_nil _ _), if_neg hne]
          rfl

theorem run_addAll_threeRows :
    let s : Store := ⟨⟨Draft.ofTable "t", by decide⟩, .cosine, none,
      ⟨⟨4, by decide⟩, none, ⟨2, by decide⟩⟩⟩
    let insertion : Insertion := ⟨[.list [], .list [], .list []], none, none,
      some [.text "a", .text "b", .text "c"]⟩
    let run := (s.addAll insertion).run (fun _ _ => (.ok .null, ())) () ⟨true, 0, true⟩
    insertion.Aligned ∧ run.result = .ok [.text "a", .text "b", .text "c"] ∧
      (committedRows run.history).map List.head? =
        [some (.text "a"), some (.text "b"), some (.text "c")] := by
  intro s insertion run
  have haligned : insertion.Aligned := ⟨by simp [insertion], by simp [insertion], by simp [insertion]⟩
  have hresult : run.result = .ok [.text "a", .text "b", .text "c"] := by with_unfolding_all rfl
  refine ⟨haligned, hresult, ?_⟩
  have hrelease : ∀ fault, (.release, .error fault) ∉ exchanges run.history := by
    intro fault hmem
    obtain ⟨state, hreply⟩ := exists_state_of_mem_run (mem_exchanges_iff.mp hmem)
    cases hreply
  obtain ⟨-, hok⟩ := s.run_addAll haligned (fun _ _ => (.ok .null, ())) () ⟨true, 0, true⟩ hrelease
  obtain ⟨-, records, batch, chunks, -, -, hheads, hrows, -⟩ := hok _ hresult
  rw [hrows, hheads]
  rfl

end Store

end VectorTable
