import Mathlib.Data.List.Forall2
import VectorTable.Failure

/-!
# Steps that may fail

A computation that succeeds is made of steps that succeed. Here a success is taken apart into the successes of its steps, so that a property of the result can be shown one step at a time.
-/

namespace VectorTable

variable {ε α β γ : Type}

theorem bind_eq_ok_iff {x : Except ε α} {f : α → Except ε β} {b : β} :
    x >>= f = .ok b ↔ ∃ a, x = .ok a ∧ f a = .ok b := by
  constructor
  · intro h
    cases x with
    | error e => cases h
    | ok a => exact ⟨a, rfl, h⟩
  · rintro ⟨a, rfl, h⟩
    exact h

theorem map_eq_ok_iff {x : Except ε α} {f : α → β} {b : β} :
    f <$> x = .ok b ↔ ∃ a, x = .ok a ∧ f a = b := by
  constructor
  · intro h
    cases x with
    | error e => cases h
    | ok a => exact ⟨a, rfl, Except.ok.inj h⟩
  · rintro ⟨a, rfl, rfl⟩
    rfl

/-- What each step keeps, all steps keep, item by item. -/
theorem map_eq_map_of_mapM {f : α → Except ε β} {p : α → γ} {q : β → γ}
    (hf : ∀ x y, f x = .ok y → p x = q y) {xs : List α} {ys : List β}
    (h : xs.mapM f = .ok ys) : xs.map p = ys.map q := by
  induction xs generalizing ys with
  | nil =>
    cases h
    rfl
  | cons x xs ih =>
    rw [List.mapM_cons] at h
    obtain ⟨y, hx, h⟩ := bind_eq_ok_iff.mp h
    obtain ⟨more, hxs, h⟩ := bind_eq_ok_iff.mp h
    cases h
    rw [List.map_cons, List.map_cons, hf x y hx, ih hxs]

theorem forall₂_of_mapM {f : α → Except ε β} {xs : List α} {ys : List β}
    (h : xs.mapM f = .ok ys) : List.Forall₂ (fun x y => f x = .ok y) xs ys := by
  induction xs generalizing ys with
  | nil =>
    cases h
    exact .nil
  | cons x xs ih =>
    rw [List.mapM_cons] at h
    obtain ⟨y, hx, h⟩ := bind_eq_ok_iff.mp h
    obtain ⟨more, hxs, h⟩ := bind_eq_ok_iff.mp h
    cases h
    exact .cons hx (ih hxs)

theorem mapM_eq_ok_iff {f : α → Except ε β} {xs : List α} {ys : List β} :
    xs.mapM f = .ok ys ↔ List.Forall₂ (fun x y => f x = .ok y) xs ys := by
  refine ⟨forall₂_of_mapM, fun h => ?_⟩
  induction h with
  | nil => rfl
  | cons hx _ ih =>
    rw [List.mapM_cons, hx, ih]
    rfl

/-- Leaving out items leaves out their results, if it can be told from a result whether its item is left out. -/
theorem mapM_filter {f : α → Except ε β} {p : α → Bool} {q : β → Bool}
    (hf : ∀ x y, f x = .ok y → p x = q y) {xs : List α} {ys : List β} (h : xs.mapM f = .ok ys) :
    (xs.filter p).mapM f = .ok (ys.filter q) := by
  induction xs generalizing ys with
  | nil =>
    cases h
    rfl
  | cons x xs ih =>
    rw [List.mapM_cons] at h
    obtain ⟨y, hx, h⟩ := bind_eq_ok_iff.mp h
    obtain ⟨more, hxs, h⟩ := bind_eq_ok_iff.mp h
    cases h
    rw [List.filter_cons, List.filter_cons, hf x y hx]
    split
    · rw [List.mapM_cons, hx, ih hxs]
      rfl
    · exact ih hxs

theorem length_of_mapM {f : α → Except ε β} {xs : List α} {ys : List β}
    (h : xs.mapM f = .ok ys) : ys.length = xs.length := by
  have hmapped := map_eq_map_of_mapM (p := fun _ => ()) (q := fun _ => ()) (fun _ _ _ => rfl) h
  simpa using (congrArg List.length hmapped).symm

/-- All steps succeed together exactly if each of them does. -/
theorem exists_mapM_eq_ok_iff {f : α → Except ε β} {xs : List α} :
    (∃ ys, xs.mapM f = .ok ys) ↔ ∀ x ∈ xs, ∃ y, f x = .ok y := by
  induction xs with
  | nil => exact ⟨fun _ => nofun, fun _ => ⟨[], rfl⟩⟩
  | cons x xs ih =>
    rw [List.forall_mem_cons, ← ih, List.mapM_cons]
    constructor
    · rintro ⟨ys, h⟩
      obtain ⟨y, hx, h⟩ := bind_eq_ok_iff.mp h
      obtain ⟨more, hxs, -⟩ := bind_eq_ok_iff.mp h
      exact ⟨⟨y, hx⟩, more, hxs⟩
    · rintro ⟨⟨y, hx⟩, more, hxs⟩
      rw [hx, hxs]
      exact ⟨y :: more, rfl⟩

theorem exists_mem_of_mem_mapM {f : α → Except ε β} {xs : List α} {ys : List β}
    (h : xs.mapM f = .ok ys) {y : β} (hy : y ∈ ys) : ∃ x ∈ xs, f x = .ok y := by
  induction xs generalizing ys with
  | nil =>
    cases h
    cases hy
  | cons x xs ih =>
    rw [List.mapM_cons] at h
    obtain ⟨result, hx, h⟩ := bind_eq_ok_iff.mp h
    obtain ⟨more, hxs, h⟩ := bind_eq_ok_iff.mp h
    cases h
    rcases List.mem_cons.mp hy with rfl | hrest
    · exact ⟨x, List.mem_cons_self, hx⟩
    · obtain ⟨other, hother, hresult⟩ := ih hxs hrest
      exact ⟨other, List.mem_cons_of_mem _ hother, hresult⟩

/-- Items and results that stand at the same position belong together. -/
theorem eq_ok_of_mem_zip_mapM {f : α → Except ε β} {xs : List α} {ys : List β}
    (h : xs.mapM f = .ok ys) {x : α} {y : β} (hxy : (x, y) ∈ xs.zip ys) : f x = .ok y := by
  induction xs generalizing ys with
  | nil => cases hxy
  | cons first xs ih =>
    rw [List.mapM_cons] at h
    obtain ⟨result, hfirst, h⟩ := bind_eq_ok_iff.mp h
    obtain ⟨more, hxs, h⟩ := bind_eq_ok_iff.mp h
    cases h
    rcases List.mem_cons.mp hxy with heq | hrest
    · cases heq
      exact hfirst
    · exact ih hxs hrest

end VectorTable
