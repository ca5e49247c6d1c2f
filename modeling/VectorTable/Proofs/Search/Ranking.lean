import Mathlib.Data.Multiset.Filter
import Mathlib.Data.Rat.Defs
import Mathlib.Data.List.Sort
import Mathlib.Tactic.Linarith
import Mathlib.Tactic.Positivity
import VectorTable.Proofs.Failure.Steps
import VectorTable.Proofs.Store.Operation
import VectorTable.Store.Read

/-!
# What the least score of a search leaves

The server gives the rows nearest to the query vector, at most as many as the limit says, and only then the rows whose scores are too low are left out. Nothing is lost by this order: scores fall as the rows get further away, so the rows that are left out come after all others, and those that stay are the nearest rows with high enough scores. Doubles round, so this is shown for exact numbers; the ranking of rows is the same definition for both.
-/

namespace VectorTable

open Program

/-! ### Ranked rows -/

section Rank

variable {α ρ : Type} [OfNat α 0] [OfNat α 1] [Add α] [Sub α] [Div α] [BEq α]

/-- Rows with their scores, in order, without those whose scores do not reach the least one. There is no answer if a score cannot be computed. -/
def Distance.rank? (measure : Distance) (distance : ρ → α) (reaches : α → Bool) (rows : List ρ) :
    Option (List (ρ × α)) := do
  let scored ← rows.mapM fun row => do return (row, ← measure.score? (distance row))
  return scored.filter fun entry => reaches entry.2

theorem Distance.rank?_eq_some {measure : Distance} {distance : ρ → α} (reaches : α → Bool)
    {score : ρ → α} {rows : List ρ}
    (hscore : ∀ row ∈ rows, measure.score? (distance row) = some (score row)) :
    measure.rank? distance reaches rows =
      some ((rows.filter fun row => reaches (score row)).map fun row => (row, score row)) := by
  have hscored : (rows.mapM fun row => do return (row, ← measure.score? (distance row))) =
      some (rows.map fun row => (row, score row)) := by
    induction rows with
    | nil => rfl
    | cons row rows ih =>
      rw [List.mapM_cons, hscore row List.mem_cons_self,
        ih fun other hother => hscore other (List.mem_cons_of_mem _ hother)]
      rfl
  rw [rank?, hscored, Option.bind_eq_bind, Option.bind_some, List.filter_map]
  rfl

end Rank

/-! ### The first rows of some candidates -/

section First

variable {ρ : Type}

/-- At most `n` of some candidates, the first ones in some order. Candidates of which neither has to come before the other come in any order. -/
def FirstRows (before : ρ → ρ → Prop) (candidates : Multiset ρ) (n : ℕ) (rows : List ρ) : Prop :=
  ∃ order : List ρ, (order : Multiset ρ) = candidates ∧ order.Pairwise before ∧ rows = order.take n

variable {before after : ρ → ρ → Prop} {candidates : Multiset ρ} {n : ℕ} {rows : List ρ}

theorem FirstRows.mem (h : FirstRows before candidates n rows) {row : ρ} (hrow : row ∈ rows) :
    row ∈ candidates := by
  obtain ⟨order, rfl, -, rfl⟩ := h
  exact Multiset.mem_coe.mpr (List.mem_of_mem_take hrow)

theorem FirstRows.pairwise (h : FirstRows before candidates n rows) : rows.Pairwise before := by
  obtain ⟨order, -, hsorted, rfl⟩ := h
  exact hsorted.sublist (List.take_sublist n order)

theorem FirstRows.imp (h : FirstRows before candidates n rows)
    (himp : ∀ a ∈ candidates, ∀ b ∈ candidates, before a b → after a b) :
    FirstRows after candidates n rows := by
  obtain ⟨order, rfl, hsorted, rfl⟩ := h
  exact ⟨order, rfl, hsorted.imp_of_mem fun ha hb => himp _ ha _ hb, rfl⟩

/-- What is dropped comes last if nothing that is kept comes after it. -/
theorem filter_eq_takeWhile_of_pairwise {p : ρ → Bool} {order : List ρ}
    (hp : order.Pairwise fun a b => p b = true → p a = true) :
    order.filter p = order.takeWhile p := by
  induction order with
  | nil => rfl
  | cons row order ih =>
    obtain ⟨hrow, hrest⟩ := List.pairwise_cons.mp hp
    by_cases hkept : p row = true
    · rw [List.filter_cons_of_pos hkept, List.takeWhile_cons_of_pos hkept, ih hrest]
    · rw [List.filter_cons_of_neg hkept, List.takeWhile_cons_of_neg hkept, List.filter_eq_nil_iff]
      exact fun other hother hlater => hkept (hrow other hother hlater)

/-- Leaving rows out after the limit has been applied is as good as leaving them out before. -/
theorem FirstRows.filter {p : ρ → Bool} (h : FirstRows before candidates n rows)
    (hp : ∀ a ∈ candidates, ∀ b ∈ candidates, before a b → p b = true → p a = true) :
    FirstRows before (candidates.filter fun row => p row = true) n (rows.filter p) ∧
      rows.filter p <+: rows := by
  obtain ⟨order, rfl, hsorted, rfl⟩ := h
  have hlast : order.Pairwise fun a b => p b = true → p a = true :=
    hsorted.imp_of_mem fun ha hb => hp _ ha _ hb
  have hkept : (order.take n).filter p = (order.take n).takeWhile p :=
    filter_eq_takeWhile_of_pairwise (hlast.sublist (List.take_sublist n order))
  rw [hkept]
  refine ⟨⟨order.filter p, by simp, hsorted.filter p, ?_⟩, List.takeWhile_prefix p⟩
  rw [filter_eq_takeWhile_of_pairwise hlast, List.take_takeWhile]

/-- The first rows are the same up to the order of rows with equal scores. -/
theorem FirstRows.map_eq_map {score : ρ → ℚ} {others : List ρ}
    (h : FirstRows (fun a b => score b ≤ score a) candidates n rows)
    (hothers : FirstRows (fun a b => score b ≤ score a) candidates n others) :
    rows.map score = others.map score := by
  obtain ⟨order, hcandidates, hsorted, rfl⟩ := h
  obtain ⟨order', rfl, hsorted', rfl⟩ := hothers
  have hperm : (order.map score).Perm (order'.map score) := (Multiset.coe_eq_coe.mp hcandidates).map score
  have hsame : order.map score = order'.map score :=
    hperm.eq_of_pairwise (fun _ _ _ _ hab hba => le_antisymm hba hab)
      (List.pairwise_map.mpr hsorted) (List.pairwise_map.mpr hsorted')
  rw [List.map_take, List.map_take, hsame]

end First

/-! ### Distances and scores -/

/-- What the vector extension computes of each row and the query vector, in exact numbers. -/
structure Nearness (ρ : Type) where
  cosineDistance : ρ → ℚ
  euclideanDistance : ρ → ℚ
  innerProduct : ρ → ℚ

namespace Nearness

variable {ρ : Type}

/-- The values of an operator by which rows can be ordered. -/
def operator? (near : Nearness ρ) : String → Option (ρ → ℚ)
  | "<=>" => some near.cosineDistance
  | "<->" => some near.euclideanDistance
  | "<#>" => some fun row => -near.innerProduct row
  | _ => none

/-- The values of a function that can be selected. -/
def function? (near : Nearness ρ) : String → Option (ρ → ℚ)
  | "cosine_distance" => some near.cosineDistance
  | "l2_distance" => some near.euclideanDistance
  | "inner_product" => some near.innerProduct
  | _ => none

/-- Every measure orders by one value and reports another. The reported one has a score, and scores fall as the rows get further away. -/
theorem exists_score (near : Nearness ρ) (measure : Distance) :
    ∃ key distance, near.operator? measure.operator = some key ∧
      near.function? measure.searchFunction = some distance ∧
      ∀ candidates : Multiset ρ,
        (measure = .euclidean → ∀ row ∈ candidates, 0 ≤ distance row) →
        ∃ score : ρ → ℚ,
          (∀ row ∈ candidates, measure.score? (distance row) = some (score row)) ∧
          ∀ a ∈ candidates, ∀ b ∈ candidates, key a ≤ key b → score b ≤ score a := by
  cases measure with
  | cosine =>
    refine ⟨_, _, rfl, rfl, fun candidates _ => ⟨fun row => 1 - near.cosineDistance row, ?_, ?_⟩⟩
    · exact fun row _ => rfl
    · exact fun a _ b _ hab => sub_le_sub_left hab 1
  | euclidean =>
    refine ⟨_, _, rfl, rfl, fun candidates hnonneg =>
      ⟨fun row => 1 / (1 + near.euclideanDistance row), ?_, ?_⟩⟩
    · intro row hrow
      have hpositive : 1 + near.euclideanDistance row ≠ 0 := by
        linarith [hnonneg rfl row hrow]
      simp [Distance.score?, hpositive]
    · intro a ha b hb hab
      have hnear := hnonneg rfl a ha
      exact one_div_le_one_div_of_le (by linarith) (by linarith)
  | innerProduct =>
    refine ⟨_, _, rfl, rfl, fun candidates _ => ⟨near.innerProduct, fun row _ => rfl, ?_⟩⟩
    exact fun a _ b _ hab => neg_le_neg_iff.mp hab

end Nearness

/-- Whether a score reaches the least one, if there is one. -/
def reachesLeast (least : Option ℚ) (score : ℚ) : Bool := least.all fun s => s ≤ score

theorem reachesLeast_mono {least : Option ℚ} {low high : ℚ} (h : low ≤ high)
    (hlow : reachesLeast least low = true) : reachesLeast least high = true := by
  cases least with
  | none => rfl
  | some s =>
    have hs : s ≤ low := of_decide_eq_true hlow
    exact decide_eq_true (hs.trans h)

/-- The candidates with scores that reach the least one. -/
def Distance.reaching {ρ : Type} (measure : Distance) (distance : ρ → ℚ) (least : Option ℚ)
    (candidates : Multiset ρ) : Multiset ρ :=
  candidates.filter fun row => (measure.score? (distance row)).any (reachesLeast least) = true

/-- The matches that ranking leaves of some rows are the best there are among the candidates: they have the scores of the first `n` candidates that reach the least score, in falling order, and come first among the rows. -/
structure KeepsBest {ρ : Type} (measure : Distance) (key distance : ρ → ℚ)
    (candidates : Multiset ρ) (n : ℕ) (least : Option ℚ) (rows : List ρ) (kept : List (ρ × ℚ)) :
    Prop where
  ranked : measure.rank? distance (reachesLeast least) rows = some kept
  falls : (kept.map Prod.snd).Pairwise fun a b => b ≤ a
  leads : kept.map Prod.fst <+: rows
  first : FirstRows (fun a b => key a ≤ key b) (measure.reaching distance least candidates) n
    (kept.map Prod.fst)
  scores : ∀ best,
    FirstRows (fun a b => key a ≤ key b) (measure.reaching distance least candidates) n best →
    best.map (fun row => measure.score? (distance row)) = kept.map fun entry => some entry.2

/-- In exact numbers, ranking the first `n` candidates in the order of the operator keeps the best ones, and every candidate has a score. -/
theorem Nearness.keepsBest_of_firstRows {ρ : Type} (near : Nearness ρ) (measure : Distance) :
    ∃ key distance, near.operator? measure.operator = some key ∧
      near.function? measure.searchFunction = some distance ∧
      ∀ (candidates : Multiset ρ) (n : ℕ) (least : Option ℚ) (rows : List ρ),
        (measure = .euclidean → ∀ row ∈ candidates, 0 ≤ distance row) →
        FirstRows (fun a b => key a ≤ key b) candidates n rows →
        (∀ row ∈ candidates, measure.score? (distance row) ≠ none) ∧
        ∃ kept, KeepsBest measure key distance candidates n least rows kept := by
  obtain ⟨key, distance, hkey, hdistance, hscores⟩ := near.exists_score measure
  refine ⟨key, distance, hkey, hdistance, fun candidates n least rows hnonneg hrows => ?_⟩
  obtain ⟨score, hscore, hfall⟩ := hscores candidates hnonneg
  refine ⟨fun row hrow => by rw [hscore row hrow]; exact Option.some_ne_none _, ?_⟩
  have hranked := Distance.rank?_eq_some (reachesLeast least)
    fun row hrow => hscore row (hrows.mem hrow)
  have hreaching : measure.reaching distance least candidates =
      candidates.filter fun row => reachesLeast least (score row) = true :=
    Multiset.filter_congr fun row hrow => by rw [hscore row hrow, Option.any_some]
  obtain ⟨hkept, hprefix⟩ := hrows.filter (p := fun row => reachesLeast least (score row))
    fun a ha b hb hab => reachesLeast_mono (hfall a ha b hb hab)
  -- From here on the order of the operator matters only through the scores.
  have hfallen : ∀ chosen, FirstRows (fun a b => key a ≤ key b)
        (candidates.filter fun row => reachesLeast least (score row) = true) n chosen →
      FirstRows (fun a b => score b ≤ score a)
        (candidates.filter fun row => reachesLeast least (score row) = true) n chosen :=
    fun chosen hchosen => hchosen.imp fun a ha b hb =>
      hfall a (Multiset.mem_of_mem_filter ha) b (Multiset.mem_of_mem_filter hb)
  have hrowsKept : ((rows.filter fun row => reachesLeast least (score row)).map
      fun row => (row, score row)).map Prod.fst =
        rows.filter fun row => reachesLeast least (score row) := by simp [Function.comp_def]
  refine ⟨_, hranked, ?_, ?_, ?_, fun best hbest => ?_⟩
  · rw [List.map_map]
    exact List.pairwise_map.mpr (hfallen _ hkept).pairwise
  · rwa [hrowsKept]
  · rwa [hrowsKept, hreaching]
  · rw [hreaching] at hbest
    have hvalues := (hfallen _ hbest).map_eq_map (hfallen _ hkept)
    have hbestScores : best.map (fun row => measure.score? (distance row)) =
        (best.map score).map some := by
      rw [List.map_map]
      exact List.map_congr_left fun row hrow =>
        hscore row (Multiset.mem_of_mem_filter (hbest.mem hrow))
    rw [hbestScores, hvalues]
    simp

/-! ### Searches -/

/-- Whether a score reaches the least score of a request. Every score does if the request has none. -/
def SearchRequest.isReachedBy (request : SearchRequest) (score : Float) : Bool :=
  match request.minScore.magnitude? with
  | some least => least.atMost (.ofFloat score)
  | none => true

theorem eq_filter_of_filterAuxM {ε α : Type} {f : α → Except ε Bool} {p : α → Bool}
    (hf : ∀ x b, f x = .ok b → b = p x) {xs done kept : List α}
    (h : xs.filterAuxM f done = .ok kept) : kept = (xs.filter p).reverse ++ done := by
  induction xs generalizing done with
  | nil =>
    cases h
    rfl
  | cons x xs ih =>
    rw [List.filterAuxM] at h
    obtain ⟨b, hx, h⟩ := bind_eq_ok_iff.mp h
    rw [ih h, hf x b hx]
    cases hp : p x <;> simp [hp]

theorem eq_filter_of_keepScored {request : SearchRequest} {found kept : List Match}
    (h : keepScored request.minScore found = .ok kept) :
    kept = found.filter fun m => request.isReachedBy m.score := by
  rw [keepScored] at h
  split at h
  case isTrue hnull =>
    cases h
    have hevery : ∀ score, request.isReachedBy score = true := by
      intro score
      rw [SearchRequest.isReachedBy]
      cases hleast : request.minScore <;> simp_all [Value.isNull, Value.magnitude?]
    simp [hevery]
  case isFalse =>
    obtain ⟨reversed, hreversed, hkept⟩ := bind_eq_ok_iff.mp h
    cases hkept
    have hone : ∀ (m : Match) b, reachesScore request.minScore m.score = .ok b →
        b = request.isReachedBy m.score := by
      intro m b hb
      rw [reachesScore] at hb
      rw [SearchRequest.isReachedBy]
      cases hleast : request.minScore.magnitude? with
      | none =>
        rw [hleast] at hb
        cases hb
      | some least =>
        rw [hleast] at hb
        cases hb
        rfl
    rw [eq_filter_of_filterAuxM hone hreversed]
    simp

/-- What is read of a row for a match. -/
structure Schema.ReadsAs (s : Schema) (measure : Distance) (given : Option Float) (row : Value)
    (m : Match) : Prop where
  metadata : s.rowMetadata row = .ok m.metadata
  distance : rowDistance row = .ok m.distance
  score : rowScore measure given m.distance = .ok m.score
  id : ∃ value, row.requiredColumn s.idColumn = .ok value ∧ m.id = value.plain
  embedding : ∃ value, row.column s.embeddingColumn = .ok value ∧ parseVector value = .ok m.embedding
  text : row.column s.contentColumn = .ok m.text

theorem Schema.readsAs_of_rowToMatch {s : Schema} {measure : Distance} {given : Option Float}
    {row : Value} {m : Match} (h : s.rowToMatch measure given row = .ok m) :
    s.ReadsAs measure given row m := by
  obtain ⟨metadata, hmetadata, h⟩ := bind_eq_ok_iff.mp h
  obtain ⟨distance, hdistance, h⟩ := bind_eq_ok_iff.mp h
  obtain ⟨score, hscore, h⟩ := bind_eq_ok_iff.mp h
  obtain ⟨id, hid, h⟩ := bind_eq_ok_iff.mp h
  obtain ⟨column, hcolumn, h⟩ := bind_eq_ok_iff.mp h
  obtain ⟨embedding, hembedding, h⟩ := bind_eq_ok_iff.mp h
  obtain ⟨text, htext, h⟩ := bind_eq_ok_iff.mp h
  cases h
  exact ⟨hmetadata, hdistance, hscore, ⟨id, hid, rfl⟩, ⟨column, hcolumn, hembedding⟩, htext⟩

theorem Schema.score?_of_rowToMatch {s : Schema} {measure : Distance} {row : Value} {m : Match}
    (h : s.rowToMatch measure none row = .ok m) :
    ∀ d ∈ m.distance, measure.score? d = some m.score := by
  intro d hd
  have hscore := (readsAs_of_rowToMatch h).score
  rw [Option.mem_def.mp hd, rowScore, Distance.score] at hscore
  split at hscore
  case h_1 found hfound =>
    cases hscore
    exact hfound
  case h_2 => cases hscore

theorem Schema.search_eq_ok {s : Schema} {measure : Distance} {request : SearchRequest}
    {query : Query} (h : s.search measure request = .ok query) :
    (∃ clause, query.pieces = s.searchPieces measure clause query.args.length) ∧
      query.args.getLast? = some request.limit := by
  obtain ⟨vector, -, h⟩ := bind_eq_ok_iff.mp h
  obtain ⟨⟨clause, values⟩, -, h⟩ := bind_eq_ok_iff.mp h
  cases h
  exact ⟨⟨clause, rfl⟩, List.getLast?_concat⟩

theorem Store.path_search_ok {s : Store} {request : SearchRequest} {m : Memory} {h : History}
    {kept : List Match} (hpath : Path (s.search request) m h (.ok kept)) :
    ∃ query answer rows found, s.schema.search s.distance request = .ok query ∧
      .contact (.statement ⟨.fetch, query.sql, [query.args], s.timeout⟩) (.ok answer) ∈ h ∧
      answer.items = .ok rows ∧ rows.mapM (s.schema.rowToMatch s.distance none) = .ok found ∧
      keepScored request.minScore found = .ok kept := by
  obtain ⟨query, hquery, hsearch⟩ := path_ofExcept_bind_ok_iff.mp hpath
  obtain ⟨_, _, answer, rfl, hoperation, hend⟩ := path_bind_ok_iff.mp hsearch
  obtain ⟨_, hwork, houter⟩ := exists_path_of_operation_ok hoperation
  obtain ⟨_, hinner, hsubset⟩ := exists_path_of_inTransaction_ok hwork
  obtain ⟨_, _, _, rfl, -, hfetch⟩ := path_bind_ok_iff.mp hinner
  obtain rfl := eq_of_path_contact_ok hfetch
  have hfetched := houter (hsubset (List.mem_append_right _ List.mem_cons_self))
  obtain ⟨rows, hrows, hend⟩ := path_ofExcept_bind_ok_iff.mp hend
  obtain ⟨found, hfound, hend⟩ := path_ofExcept_bind_ok_iff.mp hend
  obtain ⟨kept', hkept, hend⟩ := path_ofExcept_bind_ok_iff.mp hend
  obtain ⟨_, -, hend⟩ := path_tell_iff.mp hend
  obtain ⟨_, -, hend⟩ := path_tell_iff.mp hend
  cases (path_done_iff.mp hend).2
  exact ⟨query, answer, rows, found, hquery, List.mem_append_left _ hfetched, hrows, hfound, hkept⟩

theorem Schema.score?_of_mem_found {s : Schema} {measure : Distance} {rows : List Value}
    {found : List Match} (h : rows.mapM (s.rowToMatch measure none) = .ok found) {m : Match}
    (hm : m ∈ found) : ∀ d ∈ m.distance, measure.score? d = some m.score := by
  obtain ⟨row, -, hrow⟩ := exists_mem_of_mem_mapM h hm
  exact score?_of_rowToMatch hrow

/-- A search gives the rows that the server returned, ranked; and in exact numbers ranking loses nothing: if the server returns the first `n` candidates in the order of the operator, then what is left are, with falling scores, the first `n` of the candidates with high enough scores. No score fails to exist. -/
theorem Store.search_ranks {σ : Type} (s : Store) (request : SearchRequest) (server : Server σ)
    (state : σ) (m : Memory) :
    let run := (s.search request).run server state m
    (∀ kept, run.result = .ok kept →
      ∃ query clause answer rows found, s.schema.search s.distance request = .ok query ∧
        query.pieces = s.schema.searchPieces s.distance clause query.args.length ∧
        query.args.getLast? = some request.limit ∧
        .contact (.statement ⟨.fetch, query.sql, [query.args], s.timeout⟩) (.ok answer) ∈
          run.history ∧
        answer.items = .ok rows ∧ rows.mapM (s.schema.rowToMatch s.distance none) = .ok found ∧
        ((∀ row ∈ found, row.distance.isSome) →
          s.distance.rank? (fun row => row.distance.getD 0) request.isReachedBy found =
            some (kept.map fun row => (row, row.score)))) ∧
    ∀ {ρ : Type} (near : Nearness ρ),
      ∃ key distance, near.operator? s.distance.operator = some key ∧
        near.function? s.distance.searchFunction = some distance ∧
        ∀ (candidates : Multiset ρ) (n : ℕ) (least : Option ℚ) (rows : List ρ),
          (s.distance = .euclidean → ∀ row ∈ candidates, 0 ≤ distance row) →
          FirstRows (fun a b => key a ≤ key b) candidates n rows →
          (∀ row ∈ candidates, s.distance.score? (distance row) ≠ none) ∧
          ∃ kept, KeepsBest s.distance key distance candidates n least rows kept := by
  intro run
  refine ⟨fun kept hkept => ?_, fun near => near.keepsBest_of_firstRows s.distance⟩
  have hpath : Path (s.search request) m run.history (.ok kept) :=
    hkept ▸ path_run server (s.search request) state m
  obtain ⟨query, answer, rows, found, hquery, hfetched, hrows, hfound, hscored⟩ :=
    path_search_ok hpath
  obtain ⟨⟨clause, hpieces⟩, hlimit⟩ := Schema.search_eq_ok hquery
  refine ⟨query, clause, answer, rows, found, hquery, hpieces, hlimit, hfetched, hrows, hfound, ?_⟩
  intro hdistances
  have hscores : ∀ row ∈ found, s.distance.score? (row.distance.getD 0) = some row.score := by
    intro row hrow
    obtain ⟨d, hd⟩ := Option.isSome_iff_exists.mp (hdistances row hrow)
    rw [hd]
    exact Schema.score?_of_mem_found hfound hrow d hd
  rw [Distance.rank?_eq_some request.isReachedBy hscores, eq_filter_of_keepScored hscored]

theorem Store.search_ranks_euclidean :
    let s : Store := ⟨⟨Draft.ofTable "t", by decide⟩, .euclidean, none,
      ⟨⟨4, by decide⟩, none, ⟨2, by decide⟩⟩⟩
    let request : SearchRequest := ⟨.list [.int 0], .int 3, .float 0.5, none, rfl, rfl⟩
    let row (id : String) (distance : Int) : Value :=
      .dictionary [(.text "langchain_id", .text id), (.text "distance", .int distance)]
    let server : Server Unit := fun _ contact => match contact with
      | .statement _ => (.ok (.list [row "a" 0, row "b" 1, row "c" 3]), ())
      | _ => (.ok .null, ())
    let run := (s.search request).run server () ⟨true, 0, true⟩
    (∃ kept found, run.result = .ok kept ∧ kept.map Match.id = ["a", "b"] ∧
      found.map Match.id = ["a", "b", "c"] ∧
      s.distance.rank? (fun row => row.distance.getD 0) request.isReachedBy found =
        some (kept.map fun row => (row, row.score))) ∧
    ∃ kept, KeepsBest s.distance id id {3, 1, 0, 4, 1} 3 (some (1 / 2)) [0, 1, 1] kept := by
  intro s request row server run
  obtain ⟨hsearch, hexact⟩ := s.search_ranks request server () ⟨true, 0, true⟩
  have hids : run.result.toOption.map (List.map Match.id) = some ["a", "b"] := by decide +kernel
  have hfoundIds : ([row "a" 0, row "b" 1, row "c" 3].mapM
      (s.schema.rowToMatch s.distance none)).toOption.map
        (fun found => (found.map Match.id, found.all fun m => m.distance.isSome)) =
      some (["a", "b", "c"], true) := by decide +kernel
  refine ⟨?_, ?_⟩
  · cases hresult : run.result with
    | error failure =>
      rw [hresult] at hids
      cases hids
    | ok kept =>
      rw [hresult] at hids
      obtain ⟨query, clause, answer, rows, found, -, -, -, hfetched, hrows, hfound, hranked⟩ :=
        hsearch kept hresult
      obtain ⟨_, hreply⟩ := exists_state_of_mem_run hfetched
      cases hreply
      cases hrows
      rw [hfound] at hfoundIds
      obtain ⟨hfoundIds, hdistances⟩ := Prod.mk.inj (Option.some.inj hfoundIds)
      refine ⟨kept, found, rfl, Option.some.inj hids, hfoundIds, hranked ?_⟩
      exact fun m hm => List.all_eq_true.mp hdistances m hm
  · obtain ⟨key, distance, hkey, hdistance, hbest⟩ := hexact ⟨id, id, id⟩
    cases hkey
    cases hdistance
    refine (hbest {3, 1, 0, 4, 1} 3 (some (1 / 2)) [0, 1, 1] (fun _ => ?_) ?_).2
    · decide
    · exact ⟨[0, 1, 1, 3, 4], by decide, by decide, rfl⟩

end VectorTable
