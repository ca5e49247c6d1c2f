import VectorTable.Proofs.Decimal.Range
import VectorTable.Proofs.Failure.Steps
import VectorTable.Proofs.Vector.Text

/-!
# Vectors given in different forms

A vector may be given as a list of whole numbers, truth values and doubles, in any mixture. Its components are the doubles that these stand for, and they are the same whether the list is taken as it is or written as text and read. In particular a list of doubles comes back unchanged.
-/

namespace VectorTable

open Decimal

namespace Value

/-- Whether a value may be given as a component of a vector: truth values, and numbers in the range of doubles. -/
def isComponent : Value → Bool
  | bool _ => true
  | int n => n.natAbs < doubleLimit
  | float x => (Double.ofFloat x).isFinite
  | _ => false

theorem exists_toFloat_of_isComponent {v : Value} (hv : v.isComponent = true) :
    ∃ x, v.toFloat = .ok x := by
  cases v with
  | bool b => exact ⟨_, rfl⟩
  | int n =>
    rw [isComponent, decide_eq_true_eq] at hv
    exact ⟨Float.ofInt n, by rw [toFloat, floatOfInt, if_pos hv]⟩
  | float x => exact ⟨x, rfl⟩
  | _ => cases hv

theorem isFinite_of_isComponent {v : Value} (hv : v.isComponent = true) {x : Float}
    (hx : v.toFloat = .ok x) : (Double.ofFloat x).isFinite = true := by
  cases v with
  | bool b =>
    cases hx
    cases b <;> decide
  | int n => exact isFinite_of_floatOfInt hx
  | float y =>
    cases hx
    exact hv
  | _ => cases hv

end Value

/-- The components of a vector that is given as a list of numbers are those that are read from its text. -/
theorem parseVector_formatVector {items : List Value}
    (hitems : ∀ item ∈ items, item.isComponent = true)
    (hreads : ∀ item ∈ items, ∀ x, item.toFloat = .ok x → floatOfText (showFloat x) = .ok x) :
    ∃ text components, formatVector (.list items) = .ok text ∧
      parseVector (.text text) = .ok (some components) ∧
      parseVector (.list items) = .ok (some components) ∧
      ∀ given : List Float, items = given.map .float → components = given := by
  obtain ⟨components, hcomponents⟩ : ∃ components, items.mapM Value.toFloat = .ok components :=
    exists_mapM_eq_ok_iff.mpr fun item hitem =>
      Value.exists_toFloat_of_isComponent (hitems item hitem)
  have hfinite : ∀ x ∈ components, (Double.ofFloat x).isFinite = true := by
    intro x hx
    obtain ⟨item, hitem, hfloat⟩ := exists_mem_of_mem_mapM hcomponents hx
    exact Value.isFinite_of_isComponent (hitems item hitem) hfloat
  have hread : ∀ x ∈ components, floatOfText (showFloat x) = .ok x := by
    intro x hx
    obtain ⟨item, hitem, hfloat⟩ := exists_mem_of_mem_mapM hcomponents hx
    exact hreads item hitem x hfloat
  have hlist : vectorComponents (.list items) = .ok components := hcomponents
  refine ⟨writeVector components, components, ?_, ?_, ?_, fun given hgiven => ?_⟩
  · rw [formatVector, hlist]
    rfl
  · rw [parseVector, readVector_writeVector hfinite hread]
    rfl
  · have hsequence : parseVector (.list items) = some <$> vectorComponents (.list items) := rfl
    rw [hsequence, hlist]
    rfl
  · rw [hgiven, vectorComponents_list] at hlist
    cases hlist
    rfl

/-- A list that mixes whole numbers, truth values and doubles, with the least double that is not zero. -/
theorem parseVector_formatVector_mixed :
    let items : List Value := [.int (-3), .bool true, .float 0.5, .int 0, .float 5e-324]
    ∃ text, formatVector (.list items) = .ok text ∧
      parseVector (.text text) = .ok (some [-3, 1, 0.5, 0, 5e-324]) ∧
      parseVector (.list items) = .ok (some [-3, 1, 0.5, 0, 5e-324]) := by
  intro items
  have hitems : ∀ item ∈ items, item.isComponent = true := by decide +kernel
  have hreads : ∀ item ∈ items, ∀ x, item.toFloat = .ok x → floatOfText (showFloat x) = .ok x := by
    have hread : ∀ item ∈ items, (item.toFloat.toOption.all fun x =>
        readFloat? (showFloat x) = some x) = true := by decide +kernel
    intro item hitem x hx
    have hsame : readFloat? (showFloat x) = some x := by
      simpa only [hx, Except.toOption, Option.all_some, decide_eq_true_eq] using hread item hitem
    rw [floatOfText, hsame]
  obtain ⟨text, components, hformat, hparse, hsequence, -⟩ :=
    parseVector_formatVector hitems hreads
  have hvalues : (parseVector (.list items)).toOption = some (some [-3, 1, 0.5, 0, 5e-324]) := by
    decide +kernel
  rw [hsequence] at hvalues
  cases hvalues
  exact ⟨text, hformat, hparse, hsequence⟩

end VectorTable
