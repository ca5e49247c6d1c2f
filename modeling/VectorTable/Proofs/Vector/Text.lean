import VectorTable.Proofs.Decimal.Layout
import VectorTable.VectorText

/-!
# Vectors as text and back

The text of a vector of numbers is read back as the vector, of whatever length. The brackets and
commas of the text are told from the components because no component has such characters, nor
blanks. That the text of one number reads back as the number is taken as given.
-/

namespace VectorTable

open Decimal

/-! ### Separators -/

theorem splitAt_cons_separator (separator : Char) (cs : List Char) :
    splitAt separator (separator :: cs) = [] :: splitAt separator cs := by
  rw [splitAt, if_pos rfl]

theorem splitAt_of_notMem {separator : Char} {part : List Char} (hpart : separator ∉ part) :
    splitAt separator part = [part] := by
  induction part with
  | nil => rfl
  | cons c cs ih =>
    simp only [List.mem_cons, not_or] at hpart
    obtain ⟨hc, hcs⟩ := hpart
    rw [splitAt, if_neg (Ne.symm hc), ih hcs]

theorem splitAt_append {separator : Char} {part : List Char} (hpart : separator ∉ part)
    (rest : List Char) :
    splitAt separator (part ++ separator :: rest) = part :: splitAt separator rest := by
  induction part with
  | nil => exact splitAt_cons_separator separator rest
  | cons c cs ih =>
    simp only [List.mem_cons, not_or] at hpart
    obtain ⟨hc, hcs⟩ := hpart
    rw [List.cons_append, splitAt, if_neg (Ne.symm hc), ih hcs]

/-- The first part of a text that does not begin with a separator begins like the text. -/
theorem exists_splitAt_cons {separator c : Char} (hc : c ≠ separator) (cs : List Char) :
    ∃ part parts, splitAt separator (c :: cs) = (c :: part) :: parts := by
  rw [splitAt, if_neg hc]
  cases splitAt separator cs with
  | nil => exact ⟨[], [], rfl⟩
  | cons part parts => exact ⟨part, parts, rfl⟩

/-- The first part of a text ends with the text or at the first separator. -/
theorem splitAt_eq_cons_iff {separator : Char} {cs part : List Char} {parts : List (List Char)} :
    splitAt separator cs = part :: parts ↔ separator ∉ part ∧
      (parts = [] ∧ cs = part ∨
        ∃ rest, cs = part ++ separator :: rest ∧ parts = splitAt separator rest) := by
  constructor
  · intro h
    by_cases hmem : separator ∈ cs
    · obtain ⟨before, rest, rfl, hbefore⟩ := List.eq_append_cons_of_mem hmem
      rw [splitAt_append hbefore] at h
      cases h
      exact ⟨hbefore, .inr ⟨rest, rfl, rfl⟩⟩
    · rw [splitAt_of_notMem hmem] at h
      cases h
      exact ⟨hmem, .inl ⟨rfl, rfl⟩⟩
  · rintro ⟨hpart, ⟨rfl, rfl⟩ | ⟨rest, rfl, rfl⟩⟩
    · exact splitAt_of_notMem hpart
    · exact splitAt_append hpart rest

theorem mem_intercalate {separator c : Char} {parts : List (List Char)}
    (hc : c ∈ [separator].intercalate parts) : c = separator ∨ ∃ part ∈ parts, c ∈ part := by
  induction parts with
  | nil => cases hc
  | cons part parts ih =>
    cases parts with
    | nil =>
      rw [List.intercalate_singleton] at hc
      exact .inr ⟨part, List.mem_cons_self, hc⟩
    | cons next parts =>
      rw [List.intercalate_cons_cons, List.append_assoc, List.mem_append, List.mem_append,
        List.mem_singleton] at hc
      rcases hc with hpart | hseparator | hrest
      · exact .inr ⟨part, List.mem_cons_self, hpart⟩
      · exact .inl hseparator
      · refine (ih hrest).imp_right fun ⟨other, hother, hmem⟩ => ?_
        exact ⟨other, List.mem_cons_of_mem part hother, hmem⟩

theorem splitAt_intercalate {separator : Char} {parts : List (List Char)} (hne : parts ≠ [])
    (hparts : ∀ part ∈ parts, separator ∉ part) :
    splitAt separator ([separator].intercalate parts) = parts := by
  induction parts with
  | nil => exact absurd rfl hne
  | cons part parts ih =>
    have hpart : separator ∉ part := hparts part List.mem_cons_self
    cases parts with
    | nil => rw [List.intercalate_singleton, splitAt_of_notMem hpart]
    | cons next parts =>
      have hrest := ih (by simp) fun other hother => hparts other (List.mem_cons_of_mem part hother)
      rw [List.intercalate_cons_cons, List.append_assoc, List.singleton_append,
        splitAt_append hpart, hrest]

/-! ### Trimming -/

theorem dropWhile_of_head {p : Char → Bool} {cs : List Char} (h : ∀ c ∈ cs.head?, p c = false) :
    cs.dropWhile p = cs := by
  cases cs with
  | nil => rfl
  | cons c cs => rw [List.dropWhile_cons_of_neg (by simp [h c rfl])]

theorem trimBy_of_ends {p : Char → Bool} {cs : List Char} (hhead : ∀ c ∈ cs.head?, p c = false)
    (hlast : ∀ c ∈ cs.getLast?, p c = false) : Text.trimBy p cs = cs := by
  have hreverse : ∀ c ∈ cs.reverse.head?, p c = false := by
    rw [List.head?_reverse]
    exact hlast
  rw [Text.trimBy, dropWhile_of_head hhead, dropWhile_of_head hreverse, List.reverse_reverse]

/-- What is trimmed may stand once at either end. -/
theorem trimBy_surrounded {p : Char → Bool} {first last : Char} (hfirst : p first = true)
    (hlast : p last = true) {cs : List Char} (hcs : ∀ c ∈ cs, p c = false) :
    Text.trimBy p (first :: cs ++ [last]) = cs := by
  have hdrop : (cs ++ [last]).dropWhile p = if cs = [] then [] else cs ++ [last] := by
    cases cs with
    | nil => simp [hlast]
    | cons c cs => simp [hcs c List.mem_cons_self]
  have hreverse : ∀ c ∈ cs.reverse.head?, p c = false := by
    intro c hc
    exact hcs c (List.mem_reverse.mp (List.mem_of_mem_head? hc))
  rw [Text.trimBy, List.cons_append, List.dropWhile_cons_of_pos hfirst, hdrop]
  by_cases hnil : cs = []
  · simp [hnil]
  · rw [if_neg hnil, List.reverse_append, List.reverse_singleton, List.singleton_append,
      List.dropWhile_cons_of_pos hlast, dropWhile_of_head hreverse, List.reverse_reverse]

/-! ### Vectors -/

theorem not_isBracket_of_isNumberChar {c : Char} (hc : isNumberChar c = true) :
    isBracket c = false := by
  rw [Bool.eq_false_iff]
  intro hbracket
  rw [isBracket, Bool.or_eq_true, beq_iff_eq, beq_iff_eq] at hbracket
  rcases hbracket with rfl | rfl <;> exact absurd hc (by decide)

theorem mapM_floatOfText {components : List Float}
    (h : ∀ x ∈ components, floatOfText (showFloat x) = .ok x) :
    (components.map fun x => (showFloat x).toList).mapM
        (fun part => floatOfText (String.ofList part)) = .ok components := by
  induction components with
  | nil => rfl
  | cons x components ih =>
    have hx := h x List.mem_cons_self
    have hrest := ih fun y hy => h y (List.mem_cons_of_mem x hy)
    rw [List.map_cons, List.mapM_cons, String.ofList_toList, hx, hrest]
    rfl

def vectorBody (components : List Float) : List Char :=
  [','].intercalate (components.map fun x => (showFloat x).toList)

theorem toList_writeVector (components : List Float) :
    (writeVector components).toList = '[' :: vectorBody components ++ [']'] := by
  have hcomma : ",".toList = [','] := by decide
  have hopen : "[".toList = ['['] := by decide
  have hclose : "]".toList = [']'] := by decide
  rw [writeVector, String.toList_append, String.toList_append, String.toList_intercalate, hcomma,
    hopen, hclose, List.map_map]
  rfl

theorem readVector_writeVector {components : List Float}
    (hfinite : ∀ x ∈ components, (Double.ofFloat x).isFinite = true)
    (hreads : ∀ x ∈ components, floatOfText (showFloat x) = .ok x) :
    readVector (writeVector components) = .ok components := by
  have hblanks : Text.trimBy Text.isBlank (writeVector components).toList =
      '[' :: vectorBody components ++ [']'] := by
    rw [toList_writeVector]
    refine trimBy_of_ends (fun c hc => ?_) fun c hc => ?_
    · cases hc
      decide
    · rw [List.getLast?_concat] at hc
      cases hc
      decide
  have hbrackets : Text.trimBy isBracket ('[' :: vectorBody components ++ [']']) =
      vectorBody components := by
    refine trimBy_surrounded (by decide) (by decide) fun c hc => ?_
    rcases mem_intercalate hc with rfl | ⟨part, hpart, hmem⟩
    · decide
    · obtain ⟨x, hx, rfl⟩ := List.mem_map.mp hpart
      have hnumber := Value.numberLayout.isNumberChar_of_mem_write (hfinite x hx) hmem
      exact not_isBracket_of_isNumberChar hnumber
  rw [readVector, hblanks, hbrackets]
  cases components with
  | nil => rfl
  | cons x components =>
    have hcommas : ∀ part ∈ (x :: components).map fun x => (showFloat x).toList, ',' ∉ part := by
      intro part hpart hcomma
      obtain ⟨y, hy, rfl⟩ := List.mem_map.mp hpart
      exact absurd (Value.numberLayout.isNumberChar_of_mem_write (hfinite y hy) hcomma) (by decide)
    have hparts : splitAt ',' (vectorBody (x :: components)) =
        (x :: components).map fun x => (showFloat x).toList :=
      splitAt_intercalate (List.cons_ne_nil _ _) hcommas
    have hne : vectorBody (x :: components) ≠ [] := by
      intro hnil
      rw [hnil, List.map_cons] at hparts
      injection hparts with hfirst
      exact Value.numberLayout.write_ne_nil (hfinite x List.mem_cons_self) hfirst.symm
    rw [if_neg (by simpa using hne), hparts, mapM_floatOfText hreads]

theorem vectorComponents_list (components : List Float) :
    vectorComponents (.list (components.map .float)) = .ok components := by
  change (components.map Value.float).mapM Value.toFloat = .ok components
  induction components with
  | nil => rfl
  | cons x components ih =>
    rw [List.map_cons, List.mapM_cons, ih]
    rfl

theorem formatVector_list (components : List Float) :
    formatVector (.list (components.map .float)) = .ok (writeVector components) := by
  rw [formatVector, vectorComponents_list]
  rfl

end VectorTable
