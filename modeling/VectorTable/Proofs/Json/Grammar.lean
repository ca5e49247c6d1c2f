import VectorTable.Json.Reader

/-!
# The grammar of JSON

The texts that RFC 8259 allows, as sequences of characters. Numbers, strings and the three words are given outright; lists and objects are derived from their parts, with blanks wherever the grammar has them.

What stands outside of the strings of a text can be found by one pass from the left. It has no capital letters apart from the mark of an exponent, so a text with other capitals there is no JSON.
-/

namespace VectorTable.Json

/-! ### Numbers -/

def IsSpaces (cs : List Char) : Prop := ∀ c ∈ cs, isSpace c = true

structure IsDigits (cs : List Char) : Prop where
  ne_nil : cs ≠ []
  digits : ∀ c ∈ cs, c.isDigit = true

/-- The whole part of a number: zero alone, or digits of which the first is not zero. -/
inductive IsWhole : List Char → Prop
  | zero : IsWhole ['0']
  | digits {first : Char} {rest : List Char} (hfirst : first ≠ '0')
    (hdigits : IsDigits (first :: rest)) : IsWhole (first :: rest)

inductive IsFraction : List Char → Prop
  | none : IsFraction []
  | digits {cs : List Char} (hdigits : IsDigits cs) : IsFraction ('.' :: cs)

inductive IsExponent : List Char → Prop
  | none : IsExponent []
  | digits {mark : Char} {sign cs : List Char} (hmark : mark ∈ ['e', 'E'])
    (hsign : sign ∈ [[], ['-'], ['+']]) (hdigits : IsDigits cs) : IsExponent (mark :: sign ++ cs)

inductive IsNumber : List Char → Prop
  | parts {sign whole fraction exponent : List Char} (hsign : sign ∈ [[], ['-']])
    (hwhole : IsWhole whole) (hfraction : IsFraction fraction) (hexponent : IsExponent exponent) :
    IsNumber (sign ++ whole ++ fraction ++ exponent)

/-! ### Strings -/

def isHexDigit (c : Char) : Bool := (Text.hexValue? c).isSome

/-- What stands in a string: characters that are no quotes, backslashes or control characters, and escapes. -/
inductive IsCharacters : List Char → Prop
  | nil : IsCharacters []
  | plain {c : Char} {rest : List Char} (hcontrol : 32 ≤ c.toNat) (hquote : c ≠ '"')
    (hbackslash : c ≠ '\\') (hrest : IsCharacters rest) : IsCharacters (c :: rest)
  | escape {c : Char} {rest : List Char} (hc : (simpleEscape? c).isSome = true)
    (hrest : IsCharacters rest) : IsCharacters ('\\' :: c :: rest)
  | unit {digits rest : List Char} (hlength : digits.length = 4)
    (hdigits : ∀ c ∈ digits, isHexDigit c = true) (hrest : IsCharacters rest) :
    IsCharacters ('\\' :: 'u' :: digits ++ rest)

inductive IsString : List Char → Prop
  | quoted {body : List Char} (hbody : IsCharacters body) : IsString ('"' :: body ++ ['"'])

/-! ### Values -/

/-- What the grammar derives: a value, a value between blanks, a named value, and several of these with commas between them. -/
inductive Category
  | value
  | element
  | member
  | several (one : Category)

inductive Derives : Category → List Char → Prop
  | word {cs : List Char} (hword : cs ∈ ["null".toList, "true".toList, "false".toList]) :
    Derives .value cs
  | number {cs : List Char} (hnumber : IsNumber cs) : Derives .value cs
  | string {cs : List Char} (hstring : IsString cs) : Derives .value cs
  | emptyList {spaces : List Char} (hspaces : IsSpaces spaces) :
    Derives .value ('[' :: spaces ++ [']'])
  | list {cs : List Char} (hitems : Derives (.several .element) cs) :
    Derives .value ('[' :: cs ++ [']'])
  | emptyObject {spaces : List Char} (hspaces : IsSpaces spaces) :
    Derives .value ('\x7b' :: spaces ++ ['\x7d'])
  | object {cs : List Char} (hmembers : Derives (.several .member) cs) :
    Derives .value ('\x7b' :: cs ++ ['\x7d'])
  | element {before cs after : List Char} (hbefore : IsSpaces before) (hvalue : Derives .value cs)
    (hafter : IsSpaces after) : Derives .element (before ++ cs ++ after)
  | member {before name after cs : List Char} (hbefore : IsSpaces before) (hname : IsString name)
    (hafter : IsSpaces after) (hvalue : Derives .element cs) :
    Derives .member (before ++ name ++ after ++ ':' :: cs)
  | one {category : Category} {cs : List Char} (h : Derives category cs) :
    Derives (.several category) cs
  | more {category : Category} {first rest : List Char} (hfirst : Derives category first)
    (hrest : Derives (.several category) rest) :
    Derives (.several category) (first ++ ',' :: rest)

/-- A text of the grammar: one value between blanks. -/
def IsText (s : String) : Prop := Derives .element s.toList

theorem isSpaces_nil : IsSpaces [] := List.forall_mem_nil _

theorem IsSpaces.space {cs : List Char} (h : IsSpaces cs) : IsSpaces (' ' :: cs) :=
  List.forall_mem_cons.mpr ⟨rfl, h⟩

/-! ### Outside of strings -/

/-- Where a character stands: outside of strings, inside of one, or behind a backslash in one. -/
inductive Place
  | outside
  | inside
  | escaped

def Place.after : Place → Char → Place
  | outside, c => if c = '"' then inside else outside
  | inside, c => if c = '"' then outside else if c = '\\' then escaped else inside
  | escaped, _ => inside

/-- The characters outside of strings, with the quotes that open them, from a place on. -/
def bareFrom (place : Place) : List Char → List Char
  | [] => []
  | c :: cs =>
    match place with
    | .outside => c :: bareFrom (place.after c) cs
    | .inside | .escaped => bareFrom (place.after c) cs

def bare (cs : List Char) : List Char := bareFrom .outside cs

/-- All strings that begin in a text end in it. -/
def IsBalanced (cs : List Char) : Prop := cs.foldl Place.after .outside = .outside

/-- Capital letters that have no place outside of strings: all but the mark of an exponent. -/
def isForeign (c : Char) : Bool := 'A' ≤ c && c ≤ 'Z' && c != 'E'

/-- Texts whose strings end and that have no foreign letters outside of them. -/
structure IsNative (cs : List Char) : Prop where
  balanced : IsBalanced cs
  native : ∀ c ∈ bare cs, isForeign c = false

theorem bareFrom_append (place : Place) (cs rest : List Char) :
    bareFrom place (cs ++ rest) =
      bareFrom place cs ++ bareFrom (cs.foldl Place.after place) rest := by
  induction cs generalizing place with
  | nil => rfl
  | cons c cs ih =>
    cases place with
    | outside => exact congrArg (c :: ·) (ih _)
    | inside => exact ih _
    | escaped => exact ih _

theorem IsBalanced.append {cs rest : List Char} (hcs : IsBalanced cs) (hrest : IsBalanced rest) :
    IsBalanced (cs ++ rest) := by
  rw [IsBalanced, List.foldl_append, hcs]
  exact hrest

theorem bare_append {cs : List Char} (hcs : IsBalanced cs) (rest : List Char) :
    bare (cs ++ rest) = bare cs ++ bare rest := by
  rw [bare, bareFrom_append, hcs]
  rfl

theorem IsNative.append {cs rest : List Char} (hcs : IsNative cs) (hrest : IsNative rest) :
    IsNative (cs ++ rest) where
  balanced := hcs.balanced.append hrest.balanced
  native := by
    rw [bare_append hcs.balanced]
    exact List.forall_mem_append.mpr ⟨hcs.native, hrest.native⟩

/-- Without quotes everything is outside of strings. -/
theorem isBalanced_of_unquoted {cs : List Char} (hcs : '"' ∉ cs) :
    IsBalanced cs ∧ bare cs = cs := by
  induction cs with
  | nil => exact ⟨rfl, rfl⟩
  | cons c cs ih =>
    rw [List.mem_cons, not_or] at hcs
    obtain ⟨hc, hcs⟩ := hcs
    obtain ⟨hbalanced, hbare⟩ := ih hcs
    have hplace : Place.outside.after c = .outside := if_neg (Ne.symm hc)
    constructor
    · rw [IsBalanced, List.foldl_cons, hplace]
      exact hbalanced
    · change c :: bareFrom (Place.outside.after c) cs = c :: cs
      rw [hplace]
      exact congrArg (c :: ·) hbare

/-- Characters that begin no string and may stand outside of one. -/
def isNeutral (c : Char) : Bool := c != '"' && !isForeign c

theorem isNative_of_neutral {cs : List Char} (hcs : cs.all isNeutral = true) : IsNative cs := by
  have hneutral (c : Char) (hc : c ∈ cs) : c ≠ '"' ∧ isForeign c = false := by
    simpa [isNeutral] using List.all_eq_true.mp hcs c hc
  obtain ⟨hbalanced, hbare⟩ := isBalanced_of_unquoted fun hquote => (hneutral _ hquote).1 rfl
  exact ⟨hbalanced, by rw [hbare]; exact fun c hc => (hneutral c hc).2⟩

theorem isNative_singleton {c : Char} (hc : isNeutral c = true) : IsNative [c] :=
  isNative_of_neutral (by simpa using hc)

/-! ### Derived texts are native -/

theorem isNeutral_of_isDigit {c : Char} (hc : c.isDigit = true) : isNeutral c = true := by
  have hrange : 48 ≤ c.toNat ∧ c.toNat ≤ 57 := by
    simpa [Char.isDigit, UInt32.le_iff_toNat_le] using hc
  have hquote : c ≠ '"' := by
    rintro rfl
    cases hc
  have hforeign : isForeign c = false := by
    simp [isForeign, Char.le_def, UInt32.le_iff_toNat_le]
    omega
  simp [isNeutral, hquote, hforeign]

theorem IsSpaces.isNative {cs : List Char} (h : IsSpaces cs) : IsNative cs := by
  refine isNative_of_neutral (List.all_eq_true.mpr fun c hc => ?_)
  have hspace := h c hc
  simp only [isSpace, Bool.or_eq_true, beq_iff_eq] at hspace
  rcases hspace with ((rfl | rfl) | rfl) | rfl <;> decide

theorem IsDigits.isNative {cs : List Char} (h : IsDigits cs) : IsNative cs :=
  isNative_of_neutral (List.all_eq_true.mpr fun c hc => isNeutral_of_isDigit (h.digits c hc))

theorem IsNumber.isNative {cs : List Char} (h : IsNumber cs) : IsNative cs := by
  have hsigns : ∀ sign ∈ [[], ['-'], ['+']], IsNative sign := by
    intro sign hsign
    apply isNative_of_neutral
    revert sign
    decide
  cases h with
  | parts hsign hwhole hfraction hexponent =>
    refine (((hsigns _ ?_).append ?_).append ?_).append ?_
    · exact List.mem_append_left _ hsign
    · cases hwhole with
      | zero => exact isNative_singleton (by decide)
      | digits _ hdigits => exact hdigits.isNative
    · cases hfraction with
      | none => exact hsigns [] (by decide)
      | digits hdigits => exact (isNative_singleton (by decide)).append hdigits.isNative
    · cases hexponent with
      | none => exact hsigns [] (by decide)
      | digits hmark hsign hdigits =>
        have hneutral := List.all_eq_true.mp (by decide : ['e', 'E'].all isNeutral = true) _ hmark
        exact ((isNative_singleton hneutral).append (hsigns _ hsign)).append hdigits.isNative

theorem scan_inside {cs : List Char} (hcs : ∀ c ∈ cs, c ≠ '"' ∧ c ≠ '\\') :
    cs.foldl Place.after .inside = .inside ∧ bareFrom .inside cs = [] := by
  induction cs with
  | nil => exact ⟨rfl, rfl⟩
  | cons c cs ih =>
    obtain ⟨⟨hquote, hbackslash⟩, hcs⟩ := List.forall_mem_cons.mp hcs
    have hplace : Place.inside.after c = .inside := by
      rw [Place.after, if_neg hquote, if_neg hbackslash]
    change cs.foldl Place.after (Place.inside.after c) = _ ∧
      bareFrom (Place.inside.after c) cs = []
    rw [hplace]
    exact ih hcs

/-- A string is left where it ends, and nothing in it is outside. -/
theorem IsCharacters.scan {body : List Char} (h : IsCharacters body) :
    body.foldl Place.after .inside = .inside ∧ bareFrom .inside body = [] := by
  induction h with
  | nil => exact ⟨rfl, rfl⟩
  | @plain c rest _ hquote hbackslash _ ih =>
    obtain ⟨hplace, hnone⟩ := scan_inside (List.forall_mem_singleton.mpr ⟨hquote, hbackslash⟩)
    rw [← List.singleton_append, List.foldl_append, bareFrom_append, hplace, hnone]
    exact ih
  | escape _ _ ih => exact ih
  | @unit digits rest _ hdigits _ ih =>
    have hplain : ∀ c ∈ digits, c ≠ '"' ∧ c ≠ '\\' := by
      intro c hc
      constructor
      · rintro rfl
        cases hdigits _ hc
      · rintro rfl
        cases hdigits _ hc
    obtain ⟨hplace, hnone⟩ := scan_inside hplain
    change (digits ++ rest).foldl Place.after .inside = _ ∧ bareFrom .inside (digits ++ rest) = []
    rw [List.foldl_append, bareFrom_append, hplace, hnone]
    exact ih

theorem IsString.isNative {cs : List Char} (h : IsString cs) : IsNative cs := by
  cases h with
  | @quoted body hbody =>
    obtain ⟨hplace, hnone⟩ := hbody.scan
    constructor
    · change (body ++ ['"']).foldl Place.after .inside = .outside
      rw [List.foldl_append, hplace]
      rfl
    · change ∀ c ∈ '"' :: bareFrom .inside (body ++ ['"']), isForeign c = false
      rw [bareFrom_append, hnone, hplace]
      exact List.forall_mem_singleton.mpr rfl

theorem Derives.isNative {category : Category} {cs : List Char} (h : Derives category cs) :
    IsNative cs := by
  induction h with
  | @word cs hword =>
    apply isNative_of_neutral
    revert cs
    decide
  | number hnumber => exact hnumber.isNative
  | string hstring => exact hstring.isNative
  | emptyList hspaces | emptyObject hspaces =>
    exact ((isNative_singleton (by decide)).append hspaces.isNative).append
      (isNative_singleton (by decide))
  | list _ ih | object _ ih =>
    exact ((isNative_singleton (by decide)).append ih).append (isNative_singleton (by decide))
  | element hbefore _ hafter ih => exact (hbefore.isNative.append ih).append hafter.isNative
  | member hbefore hname hafter _ ih =>
    exact ((hbefore.isNative.append hname.isNative).append hafter.isNative).append
      ((isNative_singleton (by decide)).append ih)
  | one _ ih => exact ih
  | more _ _ ihfirst ihrest => exact ihfirst.append ((isNative_singleton (by decide)).append ihrest)

end VectorTable.Json
