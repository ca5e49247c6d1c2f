import VectorTable.Proofs.Sql.Expression

/-!
# What the parts of a condition are parsed to

A condition that is not in parentheses can be torn apart by what stands around it. `ParsesTo` says what a text of tokens comes to wherever an operand of a conjunction may stand: after the tokens, closing the conjunctions leaves exactly the frames that were open before, and the expression means what the tokens mean, joined to a conjunction begun before them. Texts of this kind can be joined by conjunctions without parentheses, by disjunctions in parentheses, and can be negated in parentheses.
-/

namespace VectorTable.Sql

namespace Expression

def Same (d e : Expression) : Prop := ∀ s, d.value? s = e.value? s

theorem Same.refl (e : Expression) : e.Same e := fun _ => rfl

theorem Same.trans {d e f : Expression} (hde : d.Same e) (hef : e.Same f) : d.Same f :=
  fun s => (hde s).trans (hef s)

theorem Same.and {d d' e e' : Expression} (hd : d.Same d') (he : e.Same e') :
    (Expression.and d e).Same (.and d' e') := by
  intro s
  simp only [value?, hd s, he s]

theorem Same.or {d d' e e' : Expression} (hd : d.Same d') (he : e.Same e') :
    (Expression.or d e).Same (.or d' e') := by
  intro s
  simp only [value?, hd s, he s]

theorem Same.not {d d' : Expression} (hd : d.Same d') : (Expression.not d).Same (.not d') := by
  intro s
  simp only [value?, hd s]

theorem truth?_and (s : Situation) (d e : Expression) :
    (Expression.and d e).truth? s = do return (← d.truth? s).and (← e.truth? s) := by
  simp [truth?, value?, Option.bind_assoc]

theorem truth?_or (s : Situation) (d e : Expression) :
    (Expression.or d e).truth? s = do return (← d.truth? s).or (← e.truth? s) := by
  simp [truth?, value?, Option.bind_assoc]

theorem truth?_not (s : Situation) (e : Expression) :
    (Expression.not e).truth? s = do return (← e.truth? s).not := by
  simp [truth?, value?, Option.bind_assoc]

end Expression

/-! ### Closing frames -/

theorem close_close {weak strong : Nat} (h : weak ≤ strong) (frames : List Frame) (e : Expression) :
    close weak (close strong frames e).1 (close strong frames e).2 = close weak frames e := by
  induction frames generalizing e with
  | nil => rfl
  | cons frame frames ih =>
    by_cases hstrong : strong ≤ frame.strength
    · rw [close, if_pos hstrong, ih, close, if_pos (Nat.le_trans h hstrong)]
    · rw [close, if_neg hstrong]

def StopsAt (strength : Nat) (frames : List Frame) : Prop :=
  ∀ frame ∈ frames.head?, frame.strength < strength

theorem close_of_stopsAt {strength : Nat} {frames : List Frame} (h : StopsAt strength frames)
    (e : Expression) : close strength frames e = (frames, e) := by
  cases frames with
  | nil => rfl
  | cons frame frames => rw [close, if_neg (Nat.not_le.mpr (h frame rfl))]

theorem StopsAt.mono {weak strong : Nat} {frames : List Frame} (h : StopsAt weak frames)
    (hle : weak ≤ strong) : StopsAt strong frames :=
  fun frame hframe => Nat.lt_of_lt_of_le (h frame hframe) hle

/-- The frames around an operand of a conjunction, which may have been begun by a left operand. -/
def framesAround (left : Option Expression) (base : List Frame) : List Frame :=
  match left with
  | none => base
  | some left => .and left :: base

def joined (left : Option Expression) (e : Expression) : Expression :=
  match left with
  | none => e
  | some left => .and left e

theorem stopsAt_framesAround {left : Option Expression} {base : List Frame}
    (hbase : StopsAt 2 base) : StopsAt 3 (framesAround left base) := by
  cases left with
  | none => exact hbase.mono (by decide)
  | some left =>
    intro frame hframe
    cases hframe
    exact Nat.lt_succ_self 2

theorem close_framesAround {left : Option Expression} {base : List Frame} (hbase : StopsAt 2 base)
    (e : Expression) : close 2 (framesAround left base) e = (base, joined left e) := by
  cases left with
  | none => exact close_of_stopsAt hbase e
  | some left => exact close_of_stopsAt hbase (.and left e)

theorem joined_and (left : Option Expression) (d e : Expression) :
    (Expression.and (joined left d) e).Same (joined left (.and d e)) := by
  cases left with
  | none => exact .refl _
  | some left =>
    intro s
    simp [joined, Expression.value?, Option.bind_assoc, Truth.and_assoc]

theorem Expression.Same.joined {left : Option Expression} {d e : Expression} (h : d.Same e) :
    (joined left d).Same (joined left e) := by
  cases left with
  | none => exact h
  | some left => exact .and (.refl left) h

/-! ### Operands of conjunctions -/

namespace Parsing

@[simp] theorem nextAll?_nil (p : Parsing) : p.nextAll? [] = some p := rfl

@[simp] theorem nextAll?_cons (p : Parsing) (token : Token) (tokens : List Token) :
    p.nextAll? (token :: tokens) = (p.next? token).bind fun p => p.nextAll? tokens := rfl

theorem nextAll?_append (p : Parsing) (tokens more : List Token) :
    p.nextAll? (tokens ++ more) = (p.nextAll? tokens).bind fun p => p.nextAll? more := by
  simp only [nextAll?, List.foldlM_append]
  rfl

end Parsing

/-- Tokens that mean `e` wherever an operand of a conjunction may stand. -/
def ParsesTo (tokens : List Token) (e : Expression) : Prop :=
  ∀ (left : Option Expression) (base : List Frame), StopsAt 2 base →
    ∃ frames last d,
      Parsing.nextAll? ⟨framesAround left base, .operand⟩ tokens = some ⟨frames, .operator last⟩ ∧
        close 2 frames last = (base, d) ∧ d.Same (joined left e)

theorem ParsesTo.nextAll?_group {tokens : List Token} {e : Expression} (h : ParsesTo tokens e)
    (frames : List Frame) :
    ∃ d, Parsing.nextAll? ⟨frames, .operand⟩ (.mark '(' :: tokens ++ [.mark ')']) =
      some ⟨frames, .operator d⟩ ∧ d.Same e := by
  have hgroup : StopsAt 2 (.group :: frames) := fun frame hframe => by
    cases hframe
    exact Nat.zero_lt_two
  obtain ⟨open', last, d, hread, hclose, hsame⟩ := h none (.group :: frames) hgroup
  refine ⟨d, ?_, hsame⟩
  have hend : close 1 open' last = (.group :: frames, d) := by
    rw [← close_close (by decide : 1 ≤ 2), hclose]
    exact close_of_stopsAt (fun frame hframe => by cases hframe; exact Nat.zero_lt_one) d
  change Parsing.nextAll? ⟨.group :: frames, .operand⟩ (tokens ++ [.mark ')']) = _
  rw [Parsing.nextAll?_append]
  change (Parsing.nextAll? ⟨framesAround none (.group :: frames), .operand⟩ tokens).bind _ = _
  rw [hread]
  simp [Parsing.next?, Parsing.operator?, Parsing.closeGroup?, hend]

/-- Tokens that come to one operand once the comparisons and negations in them are closed. -/
theorem parsesTo_of_close {tokens : List Token} {e : Expression}
    (h : ∀ frames, StopsAt 3 frames → ∃ frames' last d,
      Parsing.nextAll? ⟨frames, .operand⟩ tokens = some ⟨frames', .operator last⟩ ∧
        close 3 frames' last = (frames, d) ∧ d.Same e) :
    ParsesTo tokens e := by
  intro left base hbase
  obtain ⟨frames, last, d, hread, hclose, hsame⟩ := h _ (stopsAt_framesAround hbase)
  refine ⟨frames, last, joined left d, hread, ?_, hsame.joined⟩
  rw [← close_close (by decide : 2 ≤ 3), hclose]
  exact close_framesAround hbase d

theorem ParsesTo.and {first second : List Token} {d e : Expression} (hfirst : ParsesTo first d)
    (hsecond : ParsesTo second e) : ParsesTo (first ++ .word "and" :: second) (.and d e) := by
  intro left base hbase
  obtain ⟨frames, last, x, hread, hclose, hx⟩ := hfirst left base hbase
  obtain ⟨frames', last', y, hread', hclose', hy⟩ := hsecond (some x) base hbase
  refine ⟨frames', last', y, ?_, hclose', ?_⟩
  · have hnext : Parsing.next? ⟨frames, .operator last⟩ (.word "and") =
        some ⟨framesAround (some x) base, .operand⟩ := by
      simp [Parsing.next?, Parsing.operator?, hclose, framesAround]
    rw [Parsing.nextAll?_append, hread, Option.bind_some, Parsing.nextAll?_cons, hnext]
    exact hread'
  · have hboth : (Expression.and x e).Same (.and (joined left d) e) := hx.and (.refl e)
    exact hy.trans (hboth.trans (joined_and left d e))

theorem ParsesTo.or {first second : List Token} {d e : Expression} (hfirst : ParsesTo first d)
    (hsecond : ParsesTo second e) :
    ParsesTo (.mark '(' :: (first ++ .word "or" :: second) ++ [.mark ')']) (.or d e) := by
  apply parsesTo_of_close
  intro frames hframes
  -- The brackets shut off what is open below, so both sides are read as if nothing were.
  have hgroup : StopsAt 2 (.group :: frames) := fun frame hframe => by
    cases hframe
    exact Nat.zero_lt_two
  obtain ⟨frames₁, last₁, x, hread₁, hclose₁, hx⟩ := hfirst none (.group :: frames) hgroup
  have hor : StopsAt 2 (.or x :: .group :: frames) := fun frame hframe => by
    cases hframe
    exact Nat.one_lt_two
  obtain ⟨frames₂, last₂, y, hread₂, hclose₂, hy⟩ := hsecond none (.or x :: .group :: frames) hor
  have hopen : ∀ z, close 1 (.group :: frames) z = (.group :: frames, z) :=
    close_of_stopsAt fun frame hframe => by cases hframe; exact Nat.zero_lt_one
  have hmiddle : close 1 frames₁ last₁ = (.group :: frames, x) := by
    rw [← close_close (by decide : 1 ≤ 2), hclose₁, hopen]
  have hend : close 1 frames₂ last₂ = (.group :: frames, .or x y) := by
    rw [← close_close (by decide : 1 ≤ 2), hclose₂]
    exact hopen (.or x y)
  refine ⟨frames, .or x y, .or x y, ?_, close_of_stopsAt hframes _, hx.or hy⟩
  change Parsing.nextAll? ⟨.group :: frames, .operand⟩
    ((first ++ .word "or" :: second) ++ [.mark ')']) = _
  have hnext : Parsing.next? ⟨frames₁, .operator last₁⟩ (.word "or") =
      some ⟨.or x :: .group :: frames, .operand⟩ := by
    simp [Parsing.next?, Parsing.operator?, hmiddle]
  have hlast : Parsing.next? ⟨frames₂, .operator last₂⟩ (.mark ')') =
      some ⟨frames, .operator (.or x y)⟩ := by
    simp [Parsing.next?, Parsing.operator?, Parsing.closeGroup?, hend]
  simp only [framesAround] at hread₁ hread₂
  rw [List.append_assoc, Parsing.nextAll?_append, hread₁, Option.bind_some, List.cons_append,
    Parsing.nextAll?_cons, hnext, Option.bind_some, Parsing.nextAll?_append, hread₂,
    Option.bind_some, Parsing.nextAll?_cons, hlast]
  rfl

theorem ParsesTo.not {tokens : List Token} {e : Expression} (h : ParsesTo tokens e) :
    ParsesTo (.word "not" :: (.mark '(' :: tokens ++ [.mark ')'])) (.not e) := by
  apply parsesTo_of_close
  intro frames hframes
  obtain ⟨d, hread, hsame⟩ := h.nextAll?_group (.not :: frames)
  exact ⟨.not :: frames, d, .not d, hread, close_of_stopsAt hframes (.not d), hsame.not⟩

/-! ### Conditions on one column -/

def negation (negated : Bool) : List Token := if negated then [.word "not"] else []

theorem parsesTo_isNull (negated : Bool) (column : String) :
    ParsesTo (.name column :: .word "is" :: negation negated ++ [.word "null"])
      (negatedIf negated (.isNull (.column column))) := by
  apply parsesTo_of_close
  intro frames hframes
  have htest := close_of_stopsAt (hframes.mono (by decide : 3 ≤ testStrength + 1))
  refine ⟨frames, _, _, ?_, close_of_stopsAt hframes _, .refl _⟩
  cases negated <;>
    simp [negation, Parsing.next?, Parsing.operand?, Parsing.operator?, htest]

theorem parsesTo_compare {text : String} {operator : Comparison}
    (hoperator : comparison? text = some operator) (column : String) (index : Nat) :
    ParsesTo [.name column, .operator text, .slot index]
      (.compare operator (.column column) (.slot index)) := by
  apply parsesTo_of_close
  intro frames hframes
  have hcompare : Parsing.compare? frames (.column column) operator =
      some ⟨.compare operator (.column column) :: frames, .operand⟩ := by
    cases frames with
    | nil => rfl
    | cons frame frames =>
      have hweak : frame.strength < 3 := hframes frame rfl
      cases frame with
      | compare => simp [Frame.strength] at hweak
      | _ => rfl
  refine ⟨.compare operator (.column column) :: frames, .slot index, _, ?_,
    close_of_stopsAt hframes _, .refl _⟩
  simp [Parsing.next?, Parsing.operand?, Parsing.operator?, hoperator, hcompare]

theorem nextAll?_slotTokens (frames : List Frame) (inner : Expression) (negated : Bool)
    (read : List Expression) (index : Nat) (indexes : List Nat) :
    Parsing.nextAll? ⟨.items inner negated read :: frames, .operand⟩
        (slotTokens (index :: indexes) ++ [.mark ')']) =
      some ⟨frames, .operator (negatedIf negated
        (.among inner (read ++ (index :: indexes).map Expression.slot)))⟩ := by
  induction indexes generalizing index read with
  | nil =>
    simp [slotTokens, Parsing.next?, Parsing.operand?, Parsing.operator?, Parsing.closeGroup?,
      close, Frame.strength]
  | cons second indexes ih =>
    have hnext := ih (read ++ [.slot index]) second
    simp only [slotTokens, List.map_cons] at hnext
    simp [slotTokens, Parsing.next?, Parsing.operand?, Parsing.operator?, Parsing.nextItem?,
      close, Frame.strength, hnext]

theorem parsesTo_among (negated : Bool) (column : String) (index : Nat) (indexes : List Nat) :
    ParsesTo (.name column :: negation negated ++ .word "in" :: .mark '(' ::
        slotTokens (index :: indexes) ++ [.mark ')'])
      (negatedIf negated (.among (.column column) ((index :: indexes).map Expression.slot))) := by
  apply parsesTo_of_close
  intro frames hframes
  have hitems := nextAll?_slotTokens frames (.column column) negated [] index indexes
  refine ⟨frames, _, _, ?_, close_of_stopsAt hframes _, .refl _⟩
  cases negated <;> exact hitems

theorem exists_parse?_of_parsesTo {text : String} {tokens : List Token} {e : Expression}
    (htokens : lex? text = some tokens) (h : ParsesTo tokens e) :
    ∃ d, parse? text = some d ∧ d.Same e := by
  obtain ⟨frames, last, d, hread, hclose, hsame⟩ := h none [] (fun _ hframe => by cases hframe)
  refine ⟨d, ?_, hsame⟩
  have hend : close 1 frames last = ([], d) := by
    rw [← close_close (by decide : 1 ≤ 2), hclose]
    rfl
  simp only [framesAround] at hread
  simp [parse?, htokens, hread, Parsing.finish?, hend]

end VectorTable.Sql
