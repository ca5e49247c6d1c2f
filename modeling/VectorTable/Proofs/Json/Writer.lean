import VectorTable.Json.Writer
import VectorTable.Proofs.Json.Number

/-!
# Which written values are JSON

The text of a value is JSON exactly if all doubles in the value are numbers. Every string is escaped so that the grammar has it, whatever its characters; so are the names of entries, of whatever kind they are. A double that is no number is written as a word with a capital letter outside of strings, wherever in the value it stands, and no text of the grammar has such a letter there.
-/

namespace VectorTable.Json

open Decimal Text

/-! ### Strings -/

theorem isHexDigit_of_mem_hex {width n : Nat} {c : Char} (hc : c ∈ hex width n) :
    isHexDigit c = true := by
  induction width generalizing n with
  | zero => cases hc
  | succ width ih =>
    rw [hex, List.mem_append, List.mem_singleton] at hc
    rcases hc with hfirst | rfl
    · exact ih hfirst
    · have hdigit : ∀ digit < 16, isHexDigit (hexDigit digit) = true := by decide
      exact hdigit _ (Nat.mod_lt n (by decide))

theorem IsCharacters.unitEscape_append {rest : List Char} (hrest : IsCharacters rest)
    (unit : Nat) : IsCharacters (unitEscape unit ++ rest) :=
  .unit (length_hex 4 unit) (fun _ => isHexDigit_of_mem_hex) hrest

theorem IsCharacters.escapeChar_append {rest : List Char} (hrest : IsCharacters rest) (c : Char) :
    IsCharacters (escapeChar c ++ rest) := by
  rw [escapeChar]
  split
  case isTrue hquoted =>
    refine .escape ?_ hrest
    rcases hquoted with rfl | rfl <;> decide
  case isFalse hplain =>
    split
    · exact .escape (by decide) hrest
    split
    · exact .escape (by decide) hrest
    split
    · exact .escape (by decide) hrest
    split
    · exact .escape (by decide) hrest
    split
    · exact .escape (by decide) hrest
    split
    case isTrue hprintable =>
      exact .plain hprintable.1 (fun h => hplain (.inl h)) (fun h => hplain (.inr h)) hrest
    case isFalse =>
      split
      · exact hrest.unitEscape_append _
      · rw [List.append_assoc]
        exact (hrest.unitEscape_append _).unitEscape_append _

theorem isString_writeText (s : String) : IsString (writeText s).toList := by
  have hbody : IsCharacters (s.toList.flatMap escapeChar) := by
    induction s.toList with
    | nil => exact .nil
    | cons c cs ih =>
      rw [List.flatMap_cons]
      exact ih.escapeChar_append c
  rw [writeText, String.toList_ofList]
  exact .quoted hbody

/-! ### Doubles that are numbers -/

mutual

/-- Whether all doubles in a value are numbers, those that name entries left aside. -/
def isFinite : Value → Bool
  | .float x => (Double.ofFloat x).isFinite
  | .list items => allFinite items
  | .dictionary entries => allNamedFinite entries
  | .null | .bool _ | .int _ | .text _ | .uuid _ | .bytes _ => true

def allFinite : List Value → Bool
  | [] => true
  | v :: vs => isFinite v && allFinite vs

def allNamedFinite : List (Value × Value) → Bool
  | [] => true
  | (_, value) :: entries => isFinite value && allNamedFinite entries

end

/-! ### Written texts -/

/-- A text that has been written: it is one of the grammar if all doubles in it are numbers, and has a foreign letter if not. -/
structure Written (category : Category) (cs : List Char) (finite : Bool) : Prop where
  balanced : IsBalanced cs
  derives : finite = true → Derives category cs
  foreign : finite = false → ∃ c ∈ bare cs, isForeign c = true

section Written

variable {category : Category} {cs rest : List Char} {finite more : Bool}

theorem Derives.written (h : Derives category cs) : Written category cs true :=
  ⟨h.isNative.balanced, fun _ => h, nofun⟩

/-- The words for doubles that are no numbers. -/
theorem written_word (hword : cs ∈ ["NaN".toList, "Infinity".toList, "-Infinity".toList]) :
    Written .value cs false := by
  have hforeign : ∀ cs ∈ ["NaN".toList, "Infinity".toList, "-Infinity".toList],
      '"' ∉ cs ∧ cs.any isForeign = true := by decide
  obtain ⟨hunquoted, hletter⟩ := hforeign cs hword
  obtain ⟨hbalanced, hbare⟩ := isBalanced_of_unquoted hunquoted
  exact ⟨hbalanced, nofun, fun _ => by rw [hbare]; exact List.any_eq_true.mp hletter⟩

theorem written_float (x : Float) :
    Written .value (numberLayout.write x).toList (Double.ofFloat x).isFinite := by
  cases hdouble : Double.ofFloat x with
  | finite =>
    have hfinite : (Double.ofFloat x).isFinite = true := by rw [hdouble]; rfl
    exact Derives.written (.number (isNumber_write numberLayout hfinite))
  | nan =>
    have htext : numberLayout.write x = "NaN" := by rw [Layout.write, hdouble]; rfl
    rw [htext]
    exact written_word (by decide)
  | infinite negative =>
    have htext : numberLayout.write x = if negative then "-Infinity" else "Infinity" := by
      rw [Layout.write, hdouble]
      rfl
    rw [htext]
    cases negative <;> exact written_word (by decide)

theorem Written.imp {one whole : Category} (hcs : Written one cs finite)
    (hwhole : Derives one cs → Derives whole cs) : Written whole cs finite :=
  ⟨hcs.balanced, fun hfinite => hwhole (hcs.derives hfinite), hcs.foreign⟩

/-- What is added before and after a written text has no foreign letters of its own. -/
theorem Written.between {one whole : Category} {first last : List Char} (hfirst : IsNative first)
    (hcs : Written one cs finite) (hlast : IsNative last)
    (hwhole : Derives one cs → Derives whole (first ++ cs ++ last)) :
    Written whole (first ++ cs ++ last) finite where
  balanced := (hfirst.balanced.append hcs.balanced).append hlast.balanced
  derives hfinite := hwhole (hcs.derives hfinite)
  foreign hfinite := by
    obtain ⟨c, hc, hforeign⟩ := hcs.foreign hfinite
    refine ⟨c, ?_, hforeign⟩
    rw [bare_append (hfirst.balanced.append hcs.balanced), bare_append hfirst.balanced]
    exact List.mem_append_left _ (List.mem_append_right _ hc)

theorem Written.append {one other whole : Category} {between : List Char}
    (hcs : Written one cs finite) (hbetween : IsNative between) (hrest : Written other rest more)
    (hwhole : Derives one cs → Derives other rest → Derives whole (cs ++ between ++ rest)) :
    Written whole (cs ++ between ++ rest) (finite && more) where
  balanced := (hcs.balanced.append hbetween.balanced).append hrest.balanced
  derives hfinite := by
    rw [Bool.and_eq_true] at hfinite
    exact hwhole (hcs.derives hfinite.1) (hrest.derives hfinite.2)
  foreign hfinite := by
    rw [bare_append (hcs.balanced.append hbetween.balanced), bare_append hcs.balanced]
    rw [Bool.and_eq_false_iff] at hfinite
    rcases hfinite with hfinite | hfinite
    · obtain ⟨c, hc, hforeign⟩ := hcs.foreign hfinite
      exact ⟨c, List.mem_append_left _ (List.mem_append_left _ hc), hforeign⟩
    · obtain ⟨c, hc, hforeign⟩ := hrest.foreign hfinite
      exact ⟨c, List.mem_append_right _ hc, hforeign⟩

theorem Written.element (hcs : Written .value cs finite) : Written .element cs finite :=
  hcs.imp fun hvalue => by simpa using Derives.element isSpaces_nil hvalue isSpaces_nil

/-- A value with its name before it. -/
theorem Written.member {name value : String} (hvalue : Written .value value.toList finite) :
    Written .member (writeText name ++ ": " ++ value).toList finite := by
  have hname := isString_writeText name
  have hcolon : IsNative ": ".toList := isNative_of_neutral (by decide)
  have hbetween : Written .member ((writeText name).toList ++ ": ".toList ++ value.toList ++ [])
      finite := by
    refine .between (hname.isNative.append hcolon) hvalue (isNative_of_neutral rfl) fun h => ?_
    have helement : Derives .element (' ' :: value.toList) := by
      simpa using Derives.element isSpaces_nil.space h isSpaces_nil
    simpa using Derives.member isSpaces_nil hname isSpaces_nil helement
  simpa using hbetween

end Written

/-! ### Written collections -/

/-- Texts that have been written one by one. -/
inductive AllWritten (category : Category) : List String → Bool → Prop
  | nil : AllWritten category [] true
  | cons {text : String} {texts : List String} {finite more : Bool}
    (htext : Written category text.toList finite) (htexts : AllWritten category texts more) :
    AllWritten category (text :: texts) (finite && more)

/-- Categories whose texts may begin with blanks. -/
def Category.isSpaced : Category → Bool
  | value => false
  | element | member => true
  | several one => one.isSpaced

theorem Derives.space {category : Category} {cs : List Char} (h : Derives category cs)
    (hcategory : category.isSpaced = true) : Derives category (' ' :: cs) := by
  induction h with
  | element hbefore hvalue hafter => exact .element hbefore.space hvalue hafter
  | member hbefore hname hafter hvalue => exact .member hbefore.space hname hafter hvalue
  | one _ ih => exact .one (ih hcategory)
  | more _ hrest ihfirst _ => exact .more (ihfirst hcategory) hrest
  | _ => cases hcategory

theorem AllWritten.commaSeparated {category : Category} (hcategory : category.isSpaced = true)
    {texts : List String} {finite : Bool} (h : AllWritten category texts finite)
    (hne : texts ≠ []) : Written (.several category) (commaSeparated texts).toList finite := by
  have hcomma : IsNative [',', ' '] := isNative_of_neutral (by decide)
  induction h with
  | nil => exact absurd rfl hne
  | @cons text texts finite more htext htexts ih =>
    cases texts with
    | nil =>
      cases htexts
      rw [VectorTable.commaSeparated, String.toList_intercalate, Bool.and_true, List.map_singleton,
        List.intercalate_singleton]
      exact htext.imp .one
    | cons next texts =>
      have hsplit : (VectorTable.commaSeparated (text :: next :: texts)).toList =
          text.toList ++ [',', ' '] ++ (VectorTable.commaSeparated (next :: texts)).toList := by
        have hseparator : ", ".toList = [',', ' '] := by decide
        simp only [VectorTable.commaSeparated, String.toList_intercalate, List.map_cons,
          List.intercalate_cons_cons, hseparator]
      rw [hsplit]
      refine htext.append hcomma (ih (List.cons_ne_nil _ _)) fun hfirst hrest => ?_
      simpa using Derives.more hfirst (hrest.space hcategory)

/-- Texts between brackets. Without texts nothing stands between them. -/
theorem AllWritten.enclosed {category : Category} (hcategory : category.isSpaced = true)
    {texts : List String} {finite : Bool} (h : AllWritten category texts finite)
    {first last : String} (hfirst : IsNative first.toList) (hlast : IsNative last.toList)
    (hnone : Derives .value (first.toList ++ last.toList))
    (hsome : ∀ cs, Derives (.several category) cs →
      Derives .value (first.toList ++ cs ++ last.toList)) :
    Written .value (first ++ VectorTable.commaSeparated texts ++ last).toList finite := by
  rw [String.toList_append, String.toList_append]
  by_cases hne : texts = []
  · subst hne
    cases h
    exact Derives.written (by simpa [VectorTable.commaSeparated] using hnone)
  · exact .between hfirst (h.commaSeparated hcategory hne) hlast (hsome _)

/-! ### Written values -/

mutual

theorem written_write : ∀ v, Written .value (write v).toList (isFinite v)
  | .null => by
    rw [write, isFinite]
    exact Derives.written (.word (by decide))
  | .bool b => by
    rw [write, isFinite]
    cases b <;> exact Derives.written (.word (by decide))
  | .int n => by
    rw [write, isFinite]
    exact Derives.written (.number (isNumber_int n))
  | .float x => by
    rw [write, isFinite]
    exact written_float x
  | .text s => by
    rw [write, isFinite]
    exact Derives.written (.string (isString_writeText s))
  | .uuid canonical => by
    rw [write, isFinite]
    exact Derives.written (.string (isString_writeText canonical))
  | .bytes data => by
    rw [write, isFinite]
    exact Derives.written (.string (isString_writeText _))
  | .list items => by
    rw [write, isFinite]
    exact (allWritten_writeItems items).enclosed rfl (isNative_of_neutral (by decide))
      (isNative_of_neutral (by decide)) (.emptyList isSpaces_nil) fun _ => .list
  | .dictionary entries => by
    rw [write, isFinite]
    exact (allWritten_writeEntries entries).enclosed rfl (isNative_of_neutral (by decide))
      (isNative_of_neutral (by decide)) (.emptyObject isSpaces_nil) fun _ => .object

theorem allWritten_writeItems : ∀ items, AllWritten .element (writeItems items) (allFinite items)
  | [] => by
    rw [writeItems, allFinite]
    exact .nil
  | v :: vs => by
    rw [writeItems, allFinite]
    exact .cons (written_write v).element (allWritten_writeItems vs)

theorem allWritten_writeEntries :
    ∀ entries, AllWritten .member (writeEntries entries) (allNamedFinite entries)
  | [] => by
    rw [writeEntries, allNamedFinite]
    exact .nil
  | (key, value) :: entries => by
    rw [writeEntries, allNamedFinite]
    exact .cons (written_write value).member (allWritten_writeEntries entries)

end

/-- What is written is JSON exactly if all doubles in the value are numbers. -/
theorem isText_write_iff (v : Value) : IsText (write v) ↔ isFinite v = true := by
  have hwritten := written_write v
  constructor
  · intro htext
    by_contra hfinite
    obtain ⟨c, hc, hforeign⟩ := hwritten.foreign (by simpa using hfinite)
    rw [htext.isNative.native c hc] at hforeign
    cases hforeign
  · intro hfinite
    exact hwritten.element.derives hfinite

end VectorTable.Json
