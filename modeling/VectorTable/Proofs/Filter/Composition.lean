import VectorTable.Filter.Predicate
import VectorTable.Proofs.Failure.Steps

/-!
# Predicates from the parts of a filter

The predicate of a filter is put together while slots are given out one after the other. Here it is described without that: the predicate of a part depends on nothing but the part and the index of its first slot, and the index is that of the whole moved on by the number of values to the left of the part. Translation agrees with this description for every filter whose nodes can all be expressed.
-/

namespace VectorTable

open Sql

/-- Whether positions from `start` on hold the given items, one after the other. -/
def HoldsFrom {α : Type} (held : Nat → Option α) (start : Nat) (items : List α) : Prop :=
  ∀ position item, items[position]? = some item → held (start + position) = some item

namespace HoldsFrom

variable {α : Type} {held : Nat → Option α} {start : Nat} {items more : List α}

theorem head {item : α} (h : HoldsFrom held start (item :: items)) : held start = some item :=
  h 0 item rfl

theorem left (h : HoldsFrom held start (items ++ more)) : HoldsFrom held start items := by
  intro position item hitem
  apply h
  have hlt : position < items.length := (List.getElem?_eq_some_iff.mp hitem).1
  rw [List.getElem?_append_left hlt, hitem]

theorem right (h : HoldsFrom held start (items ++ more)) :
    HoldsFrom held (start + items.length) more := by
  intro position item hitem
  rw [Nat.add_assoc]
  apply h
  rw [List.getElem?_append_right (Nat.le_add_right _ _), Nat.add_sub_cancel_left, hitem]

end HoldsFrom

def slotsFrom (start : Int) : Nat → List Piece
  | 0 => []
  | count + 1 => .slot start :: slotsFrom (start + 1) count

/-- The predicate of a leaf whose first slot has the index `start`. -/
def Leaf.pieces (leaf : Leaf) (start : Int) : List Piece :=
  match leaf with
  | .compare operator key _ => operator.pieces key (.slot start)
  | .member operator key _ rest => operator.pieces key (slotsFrom start (rest.length + 1))

namespace Filter

/-- Whether all nodes of a filter can be expressed in a statement. -/
def isSupported : Filter → Bool
  | leaf _ => true
  | and left right | or left right => left.isSupported && right.isSupported
  | not inner => inner.isSupported
  | custom .. | plain _ => false

/-- The values in the leaves of a filter, from left to right. -/
def values : Filter → List Value
  | leaf condition => condition.values
  | and left right | or left right => left.values ++ right.values
  | not inner => inner.values
  | custom .. | plain _ => []

/-- The predicate of a filter whose first slot has the index `start`. -/
def pieces : Filter → Int → List Piece
  | leaf condition, start => condition.pieces start
  | and left right, start =>
    left.pieces start ++ .raw " AND " :: right.pieces (start + left.values.length)
  | or left right, start =>
    .raw "(" :: left.pieces start ++ .raw " OR " :: right.pieces (start + left.values.length)
      ++ [.raw ")"]
  | not inner, start => .raw "NOT(" :: inner.pieces start ++ [.raw ")"]
  | custom .. , _ | plain _, _ => []

end Filter

def Numbering.extend (n : Numbering) (values : List Value) : Numbering :=
  ⟨n.next + values.length, n.bound ++ values⟩

theorem Numbering.extend_append (n : Numbering) (values more : List Value) :
    n.extend (values ++ more) = (n.extend values).extend more := by
  simp only [Numbering.extend, List.length_append, Int.natCast_add, List.append_assoc,
    Int.add_assoc]

theorem Numbering.bindAll_eq (n : Numbering) (values : List Value) :
    n.bindAll values = (slotsFrom n.next values.length, n.extend values) := by
  induction values generalizing n with
  | nil => simp [Numbering.bindAll, slotsFrom, Numbering.extend]
  | cons value values ih =>
    have hnext : n.next + 1 + (values.length : Int) = n.next + (values.length + 1 : Nat) := by omega
    simp only [Numbering.bindAll, Numbering.bind, ih, List.length_cons, slotsFrom,
      Numbering.extend, List.append_assoc, List.singleton_append, hnext]

theorem Leaf.translate_eq (leaf : Leaf) (n : Numbering) :
    leaf.translate n = (leaf.pieces n.next, n.extend leaf.values) := by
  cases leaf with
  | compare operator key operand =>
    simp [Leaf.translate, Numbering.bind, Leaf.pieces, Leaf.values, Numbering.extend]
  | member operator key first rest =>
    simp [Leaf.translate, Numbering.bindAll_eq, Leaf.pieces, Leaf.values]

namespace Filter

/-- Translation gives the predicate described part by part, and binds the values of the leaves from left to right. -/
theorem translate_eq {f : Filter} (hf : f.isSupported = true) (n : Numbering) :
    f.translate n = .ok (f.pieces n.next, n.extend f.values) := by
  induction f generalizing n with
  | leaf condition => rw [translate, Leaf.translate_eq, pieces, values]
  | and left right ihl ihr =>
    obtain ⟨hleft, hright⟩ := Bool.and_eq_true_iff.mp hf
    simp only [translate, ihl hleft, ihr hright, bind, Except.bind, pure, Except.pure, pieces,
      values, Numbering.extend_append, List.append_assoc, List.singleton_append]
    rfl
  | or left right ihl ihr =>
    obtain ⟨hleft, hright⟩ := Bool.and_eq_true_iff.mp hf
    simp only [translate, ihl hleft, ihr hright, bind, Except.bind, pure, Except.pure, pieces,
      values, Numbering.extend_append, List.append_assoc, List.cons_append]
    rfl
  | not inner ih =>
    simp only [translate, ih hf, bind, Except.bind, pure, Except.pure, pieces, values,
      List.cons_append, List.nil_append]
  | custom | plain => cases hf

theorem predicate_eq {f : Filter} (hf : f.isSupported = true) (start : Int) :
    f.predicate start = .ok ⟨f.pieces start, f.values⟩ := by
  simp [predicate, translate_eq hf, bind, Except.bind, pure, Except.pure, Numbering.extend]

theorem isSupported_of_translate {f : Filter} {n : Numbering} {p : List Piece × Numbering}
    (h : f.translate n = .ok p) : f.isSupported = true := by
  induction f generalizing n p with
  | leaf condition => rfl
  | and left right ihl ihr | or left right ihl ihr =>
    rw [translate] at h
    obtain ⟨first, hleft, h⟩ := bind_eq_ok_iff.mp h
    obtain ⟨second, hright, -⟩ := bind_eq_ok_iff.mp h
    exact Bool.and_eq_true_iff.mpr ⟨ihl hleft, ihr hright⟩
  | not inner ih =>
    rw [translate] at h
    obtain ⟨first, hinner, -⟩ := bind_eq_ok_iff.mp h
    exact ih hinner
  | custom | plain => cases h

theorem predicate_eq_ok_iff {f : Filter} {start : Int} {p : Predicate} :
    f.predicate start = .ok p ↔ f.isSupported = true ∧ p = ⟨f.pieces start, f.values⟩ := by
  constructor
  · intro h
    obtain ⟨q, hq, -⟩ := bind_eq_ok_iff.mp h
    have hf : f.isSupported = true := isSupported_of_translate hq
    rw [predicate_eq hf] at h
    cases h
    exact ⟨hf, rfl⟩
  · rintro ⟨hf, rfl⟩
    exact predicate_eq hf start

end Filter

end VectorTable
