import VectorTable.Filter.Basic
import VectorTable.Proofs.Sql.Token

/-!
# Expressions of the database

What the tokens of a condition mean to the database. Parsing is by precedence: membership binds more tightly than comparison, comparison than the test for null, and that more tightly than negation, conjunction and disjunction in this order. Comparisons do not associate. The parser reads one token after the other and keeps what is still open on a stack; a token first closes what binds more tightly than itself.

Truth has three values. Every comparison with null is unknown, a membership is a disjunction of comparisons, and only the test for null tells null from a value. How two values compare that are not null is left open, but that one comparison is the negation of another.
-/

namespace VectorTable.Sql

/-! ### Truth -/

inductive Truth
  | no
  | unknown
  | yes
deriving DecidableEq, Repr

namespace Truth

def ofBool (b : Bool) : Truth := if b then yes else no

/-- Conjunction: the lesser of two truth values. -/
def and : Truth → Truth → Truth
  | no, _ | _, no => no
  | yes, yes => yes
  | _, _ => unknown

/-- Disjunction: the greater of two truth values. -/
def or : Truth → Truth → Truth
  | yes, _ | _, yes => yes
  | no, no => no
  | _, _ => unknown

/-- Negation, which leaves the unknown unknown. -/
def not : Truth → Truth
  | no => yes
  | unknown => unknown
  | yes => no

def value : Truth → Value
  | no => .bool false
  | unknown => .null
  | yes => .bool true

def ofValue? : Value → Option Truth
  | .bool b => some (ofBool b)
  | .null => some unknown
  | _ => none

@[simp] theorem ofValue?_value (t : Truth) : ofValue? t.value = some t := by
  cases t <;> rfl

theorem and_assoc (s t u : Truth) : (s.and t).and u = s.and (t.and u) := by
  cases s <;> cases t <;> cases u <;> rfl

@[simp] theorem no_and (t : Truth) : no.and t = no := rfl

@[simp] theorem yes_and (t : Truth) : yes.and t = t := by cases t <;> rfl

@[simp] theorem yes_or (t : Truth) : yes.or t = yes := rfl

@[simp] theorem no_or (t : Truth) : no.or t = t := by cases t <;> rfl

@[simp] theorem or_no (t : Truth) : t.or no = t := by cases t <;> rfl

@[simp] theorem ofBool_true : ofBool true = yes := rfl

@[simp] theorem ofBool_false : ofBool false = no := rfl

@[simp] theorem not_yes : yes.not = no := rfl

@[simp] theorem not_no : no.not = yes := rfl

@[simp] theorem not_unknown : unknown.not = unknown := rfl

@[simp] theorem ofBool_and (a b : Bool) : (ofBool a).and (ofBool b) = ofBool (a && b) := by
  cases a <;> cases b <;> rfl

@[simp] theorem ofBool_or (a b : Bool) : (ofBool a).or (ofBool b) = ofBool (a || b) := by
  cases a <;> cases b <;> rfl

@[simp] theorem not_ofBool (b : Bool) : (ofBool b).not = ofBool !b := by cases b <;> rfl

end Truth

/-! ### Comparing values -/

/-- How values compare that are not null. -/
structure Comparing where
  equal : Value → Value → Bool
  greater : Value → Value → Bool
  greaterOrEqual : Value → Value → Bool
  less : Value → Value → Bool
  lessOrEqual : Value → Value → Bool

namespace Comparing

/-- Whether a comparison holds between two values that are not null. Inequality is the negation of equality. -/
def holds (c : Comparing) : Comparison → Value → Value → Bool
  | .equal, v, w => c.equal v w
  | .notEqual, v, w => !c.equal v w
  | .greater, v, w => c.greater v w
  | .greaterOrEqual, v, w => c.greaterOrEqual v w
  | .less, v, w => c.less v w
  | .lessOrEqual, v, w => c.lessOrEqual v w

/-- The truth of a comparison, which is unknown if a side is null. -/
def compare (c : Comparing) (operator : Comparison) (v w : Value) : Truth :=
  if v.isNull || w.isNull then .unknown else .ofBool (c.holds operator v w)

/-- The truth of a membership: whether the value equals one of the items. -/
def among (c : Comparing) (v : Value) (items : List Value) : Truth :=
  items.foldr (fun item rest => (c.compare .equal v item).or rest) .no

theorem compare_of_isNull (c : Comparing) (operator : Comparison) {v : Value}
    (hv : v.isNull = true) (w : Value) : c.compare operator v w = .unknown := by
  rw [compare, hv]
  rfl

theorem compare_of_not_isNull (c : Comparing) (operator : Comparison) {v w : Value}
    (hv : v.isNull = false) (hw : w.isNull = false) :
    c.compare operator v w = .ofBool (c.holds operator v w) := by
  rw [compare, hv, hw]
  rfl

theorem among_cons (c : Comparing) (v item : Value) (items : List Value) :
    c.among v (item :: items) = (c.compare .equal v item).or (c.among v items) := rfl

theorem among_of_isNull (c : Comparing) {v : Value} (hv : v.isNull = true) (item : Value)
    (items : List Value) : c.among v (item :: items) = .unknown := by
  induction items generalizing item with
  | nil =>
    rw [among_cons, c.compare_of_isNull .equal hv]
    rfl
  | cons next items ih =>
    rw [among_cons, ih next, c.compare_of_isNull .equal hv]
    rfl

theorem among_of_not_isNull (c : Comparing) {v : Value} (hv : v.isNull = false)
    {items : List Value} (hitems : ∀ item ∈ items, item.isNull = false) :
    c.among v items = .ofBool (items.any fun item => c.equal v item) := by
  induction items with
  | nil => rfl
  | cons item items ih =>
    have hitem : item.isNull = false := hitems item List.mem_cons_self
    have hrest := ih fun other hother => hitems other (List.mem_cons_of_mem item hother)
    rw [among_cons, hrest, c.compare_of_not_isNull .equal hv hitem, Truth.ofBool_or, List.any_cons]
    rfl

end Comparing

/-! ### Expressions and their values -/

inductive Expression
  | column (name : String)
  | slot (index : Nat)
  | compare (operator : Comparison) (left right : Expression)
  | among (inner : Expression) (items : List Expression)
  | isNull (inner : Expression)
  | not (inner : Expression)
  | and (left right : Expression)
  | or (left right : Expression)

/-- What an expression is evaluated in: how values compare, the row, and the values bound to slots. -/
structure Situation where
  comparing : Comparing
  column : String → Value
  slot : Nat → Option Value

mutual

/-- The value of an expression. There is none if a slot has no value or if a truth value is missing where one is needed. -/
def Expression.value? (s : Situation) : Expression → Option Value
  | .column name => some (s.column name)
  | .slot index => s.slot index
  | .compare operator left right => do
    return (s.comparing.compare operator (← left.value? s) (← right.value? s)).value
  | .among inner items => do
    return (s.comparing.among (← inner.value? s) (← Expression.values? s items)).value
  | .isNull inner => do return (Truth.ofBool (← inner.value? s).isNull).value
  | .not inner => do return (← Truth.ofValue? (← inner.value? s)).not.value
  | .and left right => do
    return ((← Truth.ofValue? (← left.value? s)).and (← Truth.ofValue? (← right.value? s))).value
  | .or left right => do
    return ((← Truth.ofValue? (← left.value? s)).or (← Truth.ofValue? (← right.value? s))).value

def Expression.values? (s : Situation) : List Expression → Option (List Value)
  | [] => some []
  | e :: es => do return (← e.value? s) :: (← Expression.values? s es)

end

def Expression.truth? (s : Situation) (e : Expression) : Option Truth :=
  (e.value? s).bind Truth.ofValue?

/-! ### Parsing -/

/-- Something that is open while an expression is parsed: a parenthesis, a list of items, or an operator that waits for its right operand. -/
inductive Frame
  | group
  | items (inner : Expression) (negated : Bool) (read : List Expression)
  | or (left : Expression)
  | and (left : Expression)
  | not
  | compare (operator : Comparison) (left : Expression)

def Frame.strength : Frame → Nat
  | group | items .. => 0
  | or _ => 1
  | and _ => 2
  | not => 3
  | compare .. => 5

/-- How tightly the test for null binds: less than comparison, more than negation. -/
def testStrength : Nat := 4

def Frame.complete : Frame → Expression → Expression
  | or left, e => .or left e
  | and left, e => .and left e
  | not, e => .not e
  | compare operator left, e => .compare operator left e
  | group, e | items .., e => e

/-- Closing the operators that bind at least as tightly as `strength`, the last one first. -/
def close (strength : Nat) : List Frame → Expression → List Frame × Expression
  | [], e => ([], e)
  | frame :: frames, e =>
    if strength ≤ frame.strength then close strength frames (frame.complete e)
    else (frame :: frames, e)

/-- A test or membership, or its negation. -/
def negatedIf (negated : Bool) (e : Expression) : Expression := if negated then .not e else e

inductive Expecting
  /-- An operand, or what may stand before one. -/
  | operand
  /-- An operator on `left`, or the end. -/
  | operator (left : Expression)
  /-- What a test asks for, after `IS` or `IS NOT`. -/
  | test (left : Expression) (negated : Bool)
  /-- A membership, after a `NOT` that follows an operand. -/
  | membership (left : Expression)
  /-- The items of a membership, after `IN`. -/
  | list (left : Expression) (negated : Bool)

structure Parsing where
  frames : List Frame
  expecting : Expecting

def comparison? : String → Option Comparison
  | "=" => some .equal
  | "!=" | "<>" => some .notEqual
  | ">" => some .greater
  | ">=" => some .greaterOrEqual
  | "<" => some .less
  | "<=" => some .lessOrEqual
  | _ => none

namespace Parsing

def operand? (frames : List Frame) : Token → Option Parsing
  | .name identifier => some ⟨frames, .operator (.column identifier)⟩
  | .slot index => some ⟨frames, .operator (.slot index)⟩
  | .mark '(' => some ⟨.group :: frames, .operand⟩
  | .word "not" => some ⟨.not :: frames, .operand⟩
  | _ => none

/-- A comparison with `left`, which is not the right side of a comparison itself. -/
def compare? (frames : List Frame) (left : Expression) (operator : Comparison) : Option Parsing :=
  match frames with
  | .compare .. :: _ => none
  | _ => some ⟨.compare operator left :: frames, .operand⟩

def closeGroup? (frames : List Frame) (last : Expression) : Option Parsing :=
  match close 1 frames last with
  | (.group :: frames, e) => some ⟨frames, .operator e⟩
  | (.items inner negated read :: frames, e) =>
    some ⟨frames, .operator (negatedIf negated (.among inner (read ++ [e])))⟩
  | _ => none

def nextItem? (frames : List Frame) (last : Expression) : Option Parsing :=
  match close 1 frames last with
  | (.items inner negated read :: frames, e) =>
    some ⟨.items inner negated (read ++ [e]) :: frames, .operand⟩
  | _ => none

/-- A token after the operand `left`. -/
def operator? (frames : List Frame) (left : Expression) : Token → Option Parsing
  | .operator text => (comparison? text).bind (compare? frames left)
  | .word "is" =>
    let (frames, left) := close (testStrength + 1) frames left
    some ⟨frames, .test left false⟩
  | .word "not" => some ⟨frames, .membership left⟩
  | .word "in" => some ⟨frames, .list left false⟩
  | .word "and" =>
    let (frames, left) := close 2 frames left
    some ⟨.and left :: frames, .operand⟩
  | .word "or" =>
    let (frames, left) := close 1 frames left
    some ⟨.or left :: frames, .operand⟩
  | .mark ')' => closeGroup? frames left
  | .mark ',' => nextItem? frames left
  | _ => none

def next? (p : Parsing) (token : Token) : Option Parsing :=
  match p.expecting, token with
  | .operand, token => operand? p.frames token
  | .operator left, token => operator? p.frames left token
  | .test left false, .word "not" => some ⟨p.frames, .test left true⟩
  | .test left negated, .word "null" => some ⟨p.frames, .operator (negatedIf negated (.isNull left))⟩
  | .membership left, .word "in" => some ⟨p.frames, .list left true⟩
  | .list left negated, .mark '(' => some ⟨.items left negated [] :: p.frames, .operand⟩
  | _, _ => none

def nextAll? (p : Parsing) (tokens : List Token) : Option Parsing := tokens.foldlM next? p

/-- The expression that has been parsed, if the tokens end here. -/
def finish? (p : Parsing) : Option Expression :=
  match p.expecting with
  | .operator last =>
    match close 1 p.frames last with
    | ([], e) => some e
    | _ => none
  | _ => none

end Parsing

def parse? (text : String) : Option Expression := do
  (← Parsing.nextAll? ⟨[], .operand⟩ (← lex? text)).finish?

end VectorTable.Sql
