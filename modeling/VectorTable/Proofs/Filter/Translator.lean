import VectorTable.Proofs.Filter.Renumbering

/-!
# Translation with one numbering

A translator can also keep a single numbering and change it in place, node after node, so that what it has given out before a failure stays given out. It starts the numbering anew for every filter, and that is enough: whatever it translated before, and however that ended, the next predicate is the one that the filter has on its own.
-/

namespace VectorTable

open Sql

/-! ### Changing a numbering in place -/

/-- Work on a numbering that is changed in place. The numbering is kept also when the work fails. -/
abbrev Translating := ExceptT Failure (StateM Numbering)

/-- The next slot, to which a value is bound. -/
def giveSlot (v : Value) : Translating Piece := modifyGet fun n => n.bind v

def Leaf.visit : Leaf → Translating (List Piece)
  | compare operator key operand => do
    return operator.pieces key (← giveSlot operand.value)
  | member operator key first rest => do
    return operator.pieces key (← (first.value :: rest.map Operand.value).mapM giveSlot)

def Filter.visit : Filter → Translating (List Piece)
  | leaf condition => condition.visit
  | and left right => do
    let leftPieces ← left.visit
    return leftPieces ++ [.raw " AND "] ++ (← right.visit)
  | or left right => do
    let leftPieces ← left.visit
    return [.raw "("] ++ leftPieces ++ [.raw " OR "] ++ (← right.visit) ++ [.raw ")"]
  | not inner => do return [.raw "NOT("] ++ (← inner.visit) ++ [.raw ")"]
  | custom node _ => throw (.unsupportedFilter node)
  | plain value => throw (.unsupportedFilter value.kind)

/-- One translation, with a numbering that is left over from another one. -/
def Filter.translateAnew (f : Filter) (start : Int) :
    StateM Numbering (Except Failure Predicate) := do
  set (⟨start, []⟩ : Numbering)
  let pieces ← f.visit.run
  let n ← get
  return pieces.map (⟨·, n.bound⟩)

/-- Translations one after the other by the same translator, each from an index of its own. -/
def translateEach (requests : List (Filter × Int)) :
    StateM Numbering (List (Except Failure Predicate)) :=
  requests.mapM fun request => request.1.translateAnew request.2

/-! ### In place or not -/

theorem run_bind_of_ok {α β : Type} {x : Translating α} {n after : Numbering} {a : α}
    (h : x.run.run n = (.ok a, after)) (f : α → Translating β) :
    (x >>= f).run.run n = (f a).run.run after := by
  rw [ExceptT.run_bind, StateT.run_bind, h]
  rfl

theorem run_bind_of_error {α β : Type} {x : Translating α} {n after : Numbering}
    {failure : Failure} (h : x.run.run n = (.error failure, after)) (f : α → Translating β) :
    (x >>= f).run.run n = (.error failure, after) := by
  rw [ExceptT.run_bind, StateT.run_bind, h]
  rfl

theorem run_mapM_giveSlot (values : List Value) (n : Numbering) :
    (values.mapM giveSlot).run.run n = (.ok (n.bindAll values).1, (n.bindAll values).2) := by
  induction values generalizing n with
  | nil => rfl
  | cons v values ih =>
    have hfirst : (giveSlot v).run.run n = (.ok (n.bind v).1, (n.bind v).2) := rfl
    rw [List.mapM_cons, run_bind_of_ok hfirst, run_bind_of_ok (ih _)]
    rfl

theorem Leaf.run_visit (leaf : Leaf) (n : Numbering) :
    leaf.visit.run.run n = (.ok (leaf.translate n).1, (leaf.translate n).2) := by
  cases leaf with
  | compare operator key operand => rfl
  | member operator key first rest =>
    rw [visit, run_bind_of_ok (run_mapM_giveSlot _ n)]
    rfl

/-- Work that changes a numbering in place ends as work that passes numberings on. Nothing but the failure is passed on when it fails. -/
def EndsAs {α : Type} (ended : Except Failure α × Numbering) :
    Except Failure (α × Numbering) → Prop
  | .ok (a, n) => ended = (.ok a, n)
  | .error failure => ended.1 = .error failure

theorem EndsAs.bind {α β : Type} {x : Translating α} {f : α → Translating β} {n : Numbering}
    {step : Except Failure (α × Numbering)} {next : α × Numbering → Except Failure (β × Numbering)}
    (hx : EndsAs (x.run.run n) step)
    (hf : ∀ a after, EndsAs ((f a).run.run after) (next (a, after))) :
    EndsAs ((x >>= f).run.run n) (step >>= next) := by
  cases step with
  | ok result =>
    rw [run_bind_of_ok hx]
    exact hf result.1 result.2
  | error failure =>
    -- What the failed step left in the numbering is kept, but nothing depends on it.
    have hrun : x.run.run n = (.error failure, (x.run.run n).2) := Prod.ext hx rfl
    rw [run_bind_of_error hrun]
    exact rfl

namespace Filter

theorem endsAs_visit (f : Filter) (n : Numbering) : EndsAs (f.visit.run.run n) (f.translate n) := by
  induction f generalizing n with
  | leaf condition => exact condition.run_visit n
  | and left right ihl ihr | or left right ihl ihr =>
    exact (ihl n).bind fun leftPieces after => (ihr after).bind fun rightPieces after => rfl
  | not inner ih => exact (ih n).bind fun pieces after => rfl
  | custom | plain => exact rfl

/-- What is left over from another translation has no part in the next one. -/
theorem run_translateAnew (f : Filter) (start : Int) (n : Numbering) :
    ((f.translateAnew start).run n).1 = f.predicate start := by
  have hvisit := f.endsAs_visit ⟨start, []⟩
  have hrun : ((f.translateAnew start).run n).1 =
      (f.visit.run.run ⟨start, []⟩).1.map (⟨·, (f.visit.run.run ⟨start, []⟩).2.bound⟩) := rfl
  rw [hrun, predicate]
  cases htranslate : f.translate ⟨start, []⟩ with
  | ok result =>
    rw [htranslate] at hvisit
    rw [(hvisit : f.visit.run.run ⟨start, []⟩ = (.ok result.1, result.2))]
    rfl
  | error failure =>
    rw [htranslate] at hvisit
    rw [(hvisit : (f.visit.run.run ⟨start, []⟩).1 = .error failure)]
    rfl

end Filter

/-- Used for one filter after the other, failures among them, a translator gives the predicate that each filter has on its own. -/
theorem run_translateEach (requests : List (Filter × Int)) (n : Numbering) :
    ((translateEach requests).run n).1 =
      requests.map fun request => request.1.predicate request.2 := by
  induction requests generalizing n with
  | nil => rfl
  | cons request requests ih =>
    have hfirst := request.1.run_translateAnew request.2 n
    have hrest := ih ((request.1.translateAnew request.2).run n).2
    rw [translateEach] at hrest ⊢
    rw [List.mapM_cons, List.map_cons, ← hfirst, ← hrest]
    rfl

/-! ### The predicate of a part -/

namespace Filter

/-- The text of a predicate is the one described part by part, with a slot for each value in the leaves. Where a filter stands and where counting starts changes nothing but the indexes of slots, and what a translator was used for before changes nothing. -/
theorem predicate_text {f : Filter} (hf : f.isSupported = true) (start : Int) :
    ∃ p, f.predicate start = .ok p ∧ p.sql = f.text start ∧
      p.values = f.leaves.flatMap Leaf.values ∧
      pieceIndexes p.pieces = indexesFrom start p.values.length ∧
      (∀ offset, f.predicate (start + offset) =
        .ok ⟨p.pieces.map (Piece.shift offset), p.values⟩) ∧
      (∀ g before, f.StandsIn g before → g.isSupported = true →
        ∃ q front back after, g.predicate start = .ok q ∧
          q.pieces = front ++ p.pieces.map (Piece.shift before.length) ++ back ∧
          q.sql = render front ++ f.text (start + before.length) ++ render back ∧
          pieceIndexes front = indexesFrom start before.length ∧
          q.values = before ++ p.values ++ after) ∧
      ∀ requests n, ((translateEach requests).run n).1 =
        requests.map fun request => request.1.predicate request.2 := by
  refine ⟨⟨f.pieces start, f.values⟩, predicate_eq hf start, render_pieces hf start,
    f.values_eq_flatMap, f.pieceIndexes_pieces start, ?_, ?_, run_translateEach⟩
  · intro offset
    rw [predicate_eq hf, pieces_add]
  · intro g before hstands hg
    obtain ⟨front, back, after, hpieces, hfront, hvalues⟩ := exists_pieces_of_standsIn hstands start
    refine ⟨_, front, back, after, predicate_eq hg start, ?_, ?_, hfront, hvalues⟩
    · rw [hpieces, pieces_add]
    · rw [Predicate.sql, hpieces, render_append, render_append, render_pieces hf]

theorem predicate_text_negated :
    let equal := leaf (.compare .equal ⟨"a\" AND \"b", by decide⟩ ⟨.int 1, rfl⟩)
    let among := leaf (.member .among ⟨"c", by decide⟩ ⟨.int 2, rfl⟩ [⟨.int 3, rfl⟩])
    let f := not among
    let g := or equal f
    f.isSupported = true ∧ f.StandsIn g [.int 1] ∧ g.isSupported = true ∧
      ∃ p q, f.predicate 4 = .ok p ∧ p.sql = "NOT(\"c\" IN ($4, $5))" ∧ g.predicate 4 = .ok q ∧
        ((translateEach [(and g (plain (.int 0)), 7), (f, 4)]).run ⟨9, []⟩).1 =
          [.error (.unsupportedFilter "int"), .ok p] := by
  intro equal among f g
  have hf : f.isSupported = true := rfl
  have hg : g.isSupported = true := rfl
  have hstands : f.StandsIn g [.int 1] := .orRight .whole
  refine ⟨hf, hstands, hg, ?_⟩
  obtain ⟨p, hp, hsql, -, -, -, hpart, hreuse⟩ := predicate_text hf 4
  obtain ⟨q, front, back, after, hq, -⟩ := hpart g [.int 1] hstands hg
  refine ⟨p, q, hp, hsql.trans (by decide), hq, ?_⟩
  rw [hreuse, List.map_cons, List.map_cons, hp]
  rfl

end Filter

end VectorTable
