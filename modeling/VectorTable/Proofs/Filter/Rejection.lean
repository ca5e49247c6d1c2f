import VectorTable.Proofs.Failure.Misfit
import VectorTable.Proofs.Filter.Composition
import VectorTable.Proofs.Vector.Text
import VectorTable.Query

/-!
# Filters that no statement can express

A node that no statement can express makes its filter useless, wherever it stands and however many nodes were translated before it. The failure names the first such node, as nodes are read: each before its parts, and these from left to right. Without such a node there is always a predicate. A search is refused for its filter in the same way, unless its vector is no vector at all.
-/

namespace VectorTable

open Sql

namespace Filter

/-! ### Nodes in order -/

def className : Filter → String
  | leaf condition => condition.node
  | and .. => "And"
  | or .. => "Or"
  | not _ => "Not"
  | custom node _ => node
  | plain value => value.kind

/-- Whether a statement can express the outermost node. What a node defined elsewhere is based on does not help. -/
def isExpressible : Filter → Bool
  | leaf _ | and .. | or .. | not _ => true
  | custom .. | plain _ => false

/-- The filters at the nodes of a filter, each before its parts, and these from left to right. -/
def nodes : Filter → List Filter
  | leaf condition => [leaf condition]
  | and left right => and left right :: (left.nodes ++ right.nodes)
  | or left right => or left right :: (left.nodes ++ right.nodes)
  | not inner => not inner :: inner.nodes
  | custom node base => [custom node base]
  | plain value => [plain value]

/-- The first node that no statement can express. -/
def firstForeign? (f : Filter) : Option Filter := f.nodes.find? fun node => !node.isExpressible

def refusal (node : Filter) : Failure := .unsupportedFilter node.className

/-- A node that can be expressed leaves the search to its parts. -/
theorem firstForeign?_of_nodes {f : Filter} {parts : List Filter} (hf : f.isExpressible = true)
    (hnodes : f.nodes = f :: parts) :
    f.firstForeign? = parts.find? fun node => !node.isExpressible := by
  rw [firstForeign?, hnodes, List.find?_cons_of_neg (by simp [hf])]

theorem firstForeign?_and (left right : Filter) :
    (and left right).firstForeign? = left.firstForeign?.or right.firstForeign? :=
  (firstForeign?_of_nodes rfl rfl).trans List.find?_append

theorem firstForeign?_or (left right : Filter) :
    (or left right).firstForeign? = left.firstForeign?.or right.firstForeign? :=
  (firstForeign?_of_nodes rfl rfl).trans List.find?_append

theorem firstForeign?_not (inner : Filter) : (not inner).firstForeign? = inner.firstForeign? :=
  firstForeign?_of_nodes rfl rfl

theorem firstForeign?_eq_none_iff (f : Filter) :
    f.firstForeign? = none ↔ f.isSupported = true := by
  induction f with
  | leaf condition => simp [firstForeign?, nodes, isExpressible, isSupported]
  | and left right ihl ihr =>
    rw [firstForeign?_and, Option.or_eq_none_iff, ihl, ihr, isSupported, Bool.and_eq_true_iff]
  | or left right ihl ihr =>
    rw [firstForeign?_or, Option.or_eq_none_iff, ihl, ihr, isSupported, Bool.and_eq_true_iff]
  | not inner ih => rw [firstForeign?_not, ih, isSupported]
  | custom | plain => simp [firstForeign?, nodes, isExpressible, isSupported]

/-! ### The failure of a translation -/

/-- The right part is reached only when all nodes of the left part have been translated. -/
theorem translate_bind_eq_error {α : Type} {left right node : Filter}
    (hleft : left.firstForeign? = some node → ∀ n, left.translate n = .error node.refusal)
    (hright : right.firstForeign? = some node → ∀ n, right.translate n = .error node.refusal)
    (h : left.firstForeign?.or right.firstForeign? = some node) (n : Numbering)
    (join : List Piece × Numbering → List Piece × Numbering → Except Failure α) :
    (left.translate n >>= fun first => right.translate first.2 >>= join first) =
      .error node.refusal := by
  rcases Option.or_eq_some_iff.mp h with hfirst | ⟨hnone, hsecond⟩
  · rw [hleft hfirst]
    rfl
  · rw [translate_eq ((firstForeign?_eq_none_iff left).mp hnone)]
    dsimp only [bind, Except.bind]
    rw [hright hsecond]

theorem translate_eq_error {f node : Filter} (h : f.firstForeign? = some node) (n : Numbering) :
    f.translate n = .error node.refusal := by
  -- The right part starts with what the left part has given out, so the numbering is not fixed.
  induction f generalizing n with
  | leaf condition => simp [firstForeign?, nodes, isExpressible] at h
  | and left right ihl ihr =>
    rw [firstForeign?_and] at h
    exact translate_bind_eq_error ihl ihr h n _
  | or left right ihl ihr =>
    rw [firstForeign?_or] at h
    exact translate_bind_eq_error ihl ihr h n _
  | not inner ih =>
    rw [firstForeign?_not] at h
    rw [translate, ih h]
    rfl
  | custom | plain =>
    cases h
    rfl

theorem predicate_eq_error {f node : Filter} (h : f.firstForeign? = some node) (start : Int) :
    f.predicate start = .error node.refusal := by
  rw [predicate, translate_eq_error h]
  rfl

/-! ### Refusals for a filter -/

/-- A computation fails exactly if a node of a filter cannot be expressed, and with the refusal of the first such node. -/
structure Decides {α : Type} (f : Filter) (x : Except Failure α) : Prop where
  error_iff : ∀ failure, x = .error failure ↔
    ∃ before node after, f.nodes = before ++ node :: after ∧
      (∀ earlier ∈ before, earlier.isExpressible = true) ∧ node.isExpressible = false ∧
      failure = .unsupportedFilter node.className ∧ failure.name = "UnsupportedFilterError" ∧
      failure.message = "Unsupported filter type: " ++ node.className
  ok_iff : (∃ a, x = .ok a) ↔ ∀ node ∈ f.nodes, node.isExpressible = true

theorem firstForeign?_eq_some_iff {f node : Filter} :
    f.firstForeign? = some node ↔ ∃ before after, f.nodes = before ++ node :: after ∧
      (∀ earlier ∈ before, earlier.isExpressible = true) ∧ node.isExpressible = false := by
  rw [firstForeign?, List.find?_eq_some_iff_append]
  simp only [Bool.not_eq_true', Bool.not_not]
  constructor
  · rintro ⟨hnode, before, after, hnodes, hbefore⟩
    exact ⟨before, after, hnodes, hbefore, hnode⟩
  · rintro ⟨before, after, hnodes, hbefore, hnode⟩
    exact ⟨hnode, before, after, hnodes, hbefore⟩

theorem firstForeign?_eq_none_iff_forall {f : Filter} :
    f.firstForeign? = none ↔ ∀ node ∈ f.nodes, node.isExpressible = true := by
  rw [firstForeign?, List.find?_eq_none]
  simp

theorem Decides.of_firstForeign? {α : Type} {f : Filter} {x : Except Failure α}
    (herror : ∀ node, f.firstForeign? = some node → x = .error node.refusal)
    (hok : f.firstForeign? = none → ∃ a, x = .ok a) : f.Decides x where
  error_iff failure := by
    constructor
    · rintro rfl
      cases hfirst : f.firstForeign? with
      | none =>
        obtain ⟨a, ha⟩ := hok hfirst
        cases ha
      | some node =>
        obtain ⟨before, after, hnodes, hbefore, hnode⟩ := firstForeign?_eq_some_iff.mp hfirst
        cases herror node hfirst
        exact ⟨before, node, after, hnodes, hbefore, hnode, rfl, rfl, rfl⟩
    · rintro ⟨before, node, after, hnodes, hbefore, hnode, rfl, -⟩
      exact herror node (firstForeign?_eq_some_iff.mpr ⟨before, after, hnodes, hbefore, hnode⟩)
  ok_iff := by
    rw [← firstForeign?_eq_none_iff_forall]
    constructor
    · rintro ⟨a, rfl⟩
      rw [Option.eq_none_iff_forall_ne_some]
      intro node hfirst
      cases herror node hfirst
    · exact hok

end Filter

/-! ### Predicates and searches -/

theorem SearchRequest.parts_of_make {embedding limit minScore : Value} {filter : Option Filter}
    {request : SearchRequest} (h : make embedding limit minScore filter = .ok request) :
    request.embedding = embedding ∧ request.filter = given? filter := by
  rw [make] at h
  split at h
  · split at h
    · cases h
      exact ⟨rfl, rfl⟩
    · cases h
    · cases h
  · cases h

theorem SearchRequest.given?_some {f : Filter} (hf : f ≠ .plain .null) :
    given? (some f) = some f := by
  rw [given?]
  rintro ⟨⟩
  exact hf rfl

namespace Filter

variable {f : Filter}

theorem decides_predicate (f : Filter) (start : Int) : f.Decides (f.predicate start) :=
  .of_firstForeign? (fun _ hfirst => predicate_eq_error hfirst start)
    fun hnone => ⟨_, predicate_eq ((firstForeign?_eq_none_iff f).mp hnone) start⟩

theorem decides_search (s : Schema) (distance : Distance) {request : SearchRequest}
    (hfilter : request.filter = some f) {vector : String}
    (hvector : formatVector request.embedding = .ok vector) :
    f.Decides (s.search distance request) := by
  have hsearch : s.search distance request = Schema.filterClause (some f) >>= fun found =>
      .ok ⟨s.searchPieces distance found.1 (.text vector :: found.2 ++ [request.limit]).length,
        .text vector :: found.2 ++ [request.limit]⟩ := by
    rw [Schema.search, hvector, hfilter]
    rfl
  rw [hsearch]
  refine .of_firstForeign? (fun node hfirst => ?_) fun hnone => ?_
  · rw [Schema.filterClause, predicate_eq_error hfirst]
    rfl
  · rw [Schema.filterClause, predicate_eq ((firstForeign?_eq_none_iff f).mp hnone)]
    exact ⟨_, rfl⟩

/-- A filter is refused exactly if it has a node that no statement can express, and for the first such node, both on its own and in a search whose vector is one. A search with another vector is refused for the vector. -/
theorem decides_predicate_and_search (f : Filter) :
    (∀ start, f.Decides (f.predicate start)) ∧
      ∀ (s : Schema) (distance : Distance) (embedding limit minScore : Value) request,
        SearchRequest.make embedding limit minScore (some f) = .ok request → f ≠ .plain .null →
        (∀ vector, formatVector embedding = .ok vector → f.Decides (s.search distance request)) ∧
        ∀ failure, formatVector embedding = .error failure →
          s.search distance request = .error failure ∧ ∃ cause, failure = .misfit cause := by
  refine ⟨f.decides_predicate, ?_⟩
  intro s distance embedding limit minScore request hrequest hf
  obtain ⟨rfl, hfilter⟩ := SearchRequest.parts_of_make hrequest
  rw [SearchRequest.given?_some hf] at hfilter
  refine ⟨fun vector hvector => decides_search s distance hfilter hvector, ?_⟩
  intro failure hfailure
  refine ⟨?_, onlyMisfits_formatVector _ failure hfailure⟩
  rw [Schema.search, hfailure]
  rfl

theorem decides_predicate_and_search_empty :
    let leaf := Leaf.compare .equal ⟨"a", by decide⟩ ⟨.int 1, rfl⟩
    let f := and (or (.leaf leaf) (not (custom "IsLike" (some leaf)))) (plain (.int 0))
    let s : Schema := ⟨Draft.ofTable "documents", by decide⟩
    f.predicate 2 = .error (.unsupportedFilter "IsLike") ∧
      plain (.text "") ≠ plain .null ∧
      formatVector (.list [.float 1]) = .ok (writeVector [1]) ∧
      ∃ request, SearchRequest.make (.list [.float 1]) (.int 4) .null (some (plain (.text ""))) =
          .ok request ∧
        s.search .cosine request = .error (.unsupportedFilter "str") := by
  intro leaf f s
  have hpredicate := (decides_predicate_and_search f).1 2
  have hne : plain (.text "") ≠ plain .null := nofun
  have hvector : formatVector (.list [.float 1]) = .ok (writeVector [1]) := formatVector_list [1]
  obtain ⟨request, hrequest⟩ : ∃ request, SearchRequest.make (.list [.float 1]) (.int 4) .null
      (some (plain (.text ""))) = .ok request := ⟨_, rfl⟩
  have hsearch := ((decides_predicate_and_search (plain (.text ""))).2 s .cosine _ _ _ request
    hrequest hne).1 _ hvector
  refine ⟨?_, hne, hvector, request, hrequest, ?_⟩
  · refine (hpredicate.error_iff _).mpr
      ⟨[f, or (.leaf leaf) (not (custom "IsLike" (some leaf))), .leaf leaf,
        not (custom "IsLike" (some leaf))], custom "IsLike" (some leaf), [plain (.int 0)],
        rfl, ?_, rfl, rfl, rfl, rfl⟩
    simp [f, isExpressible]
  · exact (hsearch.error_iff _).mpr ⟨[], plain (.text ""), [], rfl, nofun, rfl, rfl, rfl, rfl⟩

end Filter

end VectorTable
