import VectorTable.Proofs.Sql.Lexing

/-!
# Items of a list

A list in a statement stands between brackets and has commas between its items. An item may be any text, so commas and brackets inside it count for nothing if they stand in quotes, in a comment or in brackets of their own. Here a text is read for that only, one character after the other, and the list is cut into items where the database would cut it. A text is complete if it leaves everything closed that it opens and has no comma outside of that; such texts are cut apart exactly where they were joined.
-/

namespace VectorTable.Sql

/-! ### Quotes and comments -/

/-- What a character is read in: code, or something that goes up to its own end. -/
inductive Mode
  | plain
  -- The one-letter word `e` gives escapes to a string that follows at once.
  | word (lone : Bool)
  | dash
  | slash
  | lineComment
  -- Block comments nest; the last character may be half of an opening or of an end.
  | blockComment (outer : Nat) (last : Char)
  | name
  | string
  | escapeString
  | escape
  -- A string with escapes goes on if its last quote was the first of two.
  | escapeClosed
  -- A dollar sign may begin the tag of a string, which ends with the same tag.
  | dollar (read : List Char)
  | tagged (tag : List Char) (read : Option (List Char))
deriving DecidableEq

namespace Mode

/-- Whether the next character is code, unless it goes on with what has been read. -/
def isCode : Mode → Bool
  | plain | word _ | dash | slash | escapeClosed | dollar _ => true
  | lineComment | blockComment .. | name | string | escapeString | escape | tagged .. => false

def begin (c : Char) : Mode :=
  if c = '"' then name
  else if c = '\'' then string
  else if c = '$' then dollar []
  else if c = '-' then dash
  else if c = '/' then slash
  else if isLetter c then word (c = 'e' || c = 'E')
  else plain

def next : Mode → Char → Mode
  | plain, c => begin c
  | word lone, c =>
    if isWordChar c then word false
    else if lone && c = '\'' then escapeString
    else begin c
  | dash, c => if c = '-' then lineComment else begin c
  | slash, c => if c = '*' then blockComment 0 ' ' else begin c
  | lineComment, c => if c = '\n' || c = '\r' then plain else lineComment
  | blockComment outer last, c =>
    if last = '/' && c = '*' then blockComment (outer + 1) ' '
    else if last = '*' && c = '/' then
      match outer with
      | 0 => plain
      | outer + 1 => blockComment outer ' '
    else blockComment outer c
  | name, c => if c = '"' then plain else name
  | string, c => if c = '\'' then plain else string
  | escapeString, c =>
    if c = '\'' then escapeClosed else if c = '\\' then escape else escapeString
  | escape, _ => escapeString
  | escapeClosed, c => if c = '\'' then escapeString else begin c
  | dollar read, c =>
    if c = '$' then tagged read none
    else if isLetter c || (c.isDigit && !read.isEmpty) then dollar (read ++ [c])
    else begin c
  | tagged tag read, c =>
    if c = '$' then if read = some tag then plain else tagged tag (some [])
    else tagged tag (read.map (· ++ [c]))

/-- What ends with the text that it stands in, or needs no end. -/
def isClosed : Mode → Bool
  | plain | lineComment => true
  | _ => false

/-- Whether the next character says nothing: it is blank, or it belongs to a comment. -/
def isSilent : Mode → Char → Bool
  | plain, c => isSpace c || c = '-' || c = '/'
  | dash, c => c = '-'
  | slash, c => c = '*'
  | lineComment, _ | blockComment .., _ => true
  | _, _ => false

end Mode

/-- Whether a text that is read on from some mode consists of blank space and comments only. -/
def isBlank : Mode → List Char → Bool
  | mode, [] => mode.isClosed
  | mode, c :: cs => mode.isSilent c && isBlank (mode.next c) cs

example : isBlank .plain " /* ) */ -- , x JSON)".toList = true := by decide

example : isBlank .plain " - 1".toList = false := by decide

/-! ### Brackets and commas -/

/-- Where a character of an item stands: in which mode, and in how many brackets. -/
structure Place where
  mode : Mode
  depth : Nat
deriving DecidableEq

namespace Place

def start : Place := ⟨.plain, 0⟩

/-- Whether a comma or a bracket that comes next belongs to the list and not to the item. -/
def isOuter (p : Place) : Bool := p.mode.isCode && p.depth == 0

/-- Reading one more character of the item. What belongs to the list is refused. -/
def next? (p : Place) (c : Char) : Option Place :=
  if !p.mode.isCode then some ⟨p.mode.next c, p.depth⟩
  else if c = '(' ∨ c = '[' then some ⟨p.mode.next c, p.depth + 1⟩
  else if c = ')' ∨ c = ']' then
    match p.depth with
    | 0 => none
    | depth + 1 => some ⟨p.mode.next c, depth⟩
  else if c = ',' ∧ p.depth = 0 then none
  else some ⟨p.mode.next c, p.depth⟩

def readAll? (p : Place) (cs : List Char) : Option Place := cs.foldlM next? p

@[simp] theorem readAll?_nil (p : Place) : p.readAll? [] = some p := rfl

@[simp] theorem readAll?_cons (p : Place) (c : Char) (cs : List Char) :
    p.readAll? (c :: cs) = (p.next? c).bind fun p => p.readAll? cs := rfl

theorem readAll?_append (p : Place) (cs ds : List Char) :
    p.readAll? (cs ++ ds) = (p.readAll? cs).bind fun p => p.readAll? ds := by
  simp only [readAll?, List.foldlM_append]
  rfl

theorem next?_eq_none {p : Place} (hp : p.isOuter = true) {c : Char} (hc : c = ')' ∨ c = ',') :
    p.next? c = none := by
  obtain ⟨hcode, hdepth⟩ := Bool.and_eq_true_iff.mp hp
  rw [beq_iff_eq] at hdepth
  rcases hc with rfl | rfl <;> simp [next?, hcode, hdepth]

theorem next?_space {p : Place} (hp : p.isOuter = true) : p.next? ' ' = some start := by
  obtain ⟨hcode, hdepth⟩ := Bool.and_eq_true_iff.mp hp
  rw [beq_iff_eq] at hdepth
  have hmode : p.mode.next ' ' = .plain := by
    cases hmode : p.mode with
    | plain | dash | slash | escapeClosed => rfl
    | word lone => cases lone <;> rfl
    | dollar read =>
      have hletter : (isLetter ' ' || (' '.isDigit && !read.isEmpty)) = false := by
        cases read <;> rfl
      rw [Mode.next, if_neg (by decide), if_neg (by rw [hletter]; decide)]
      rfl
    | _ =>
      rw [hmode] at hcode
      cases hcode
  simp [next?, hcode, hmode, hdepth, start]

end Place

/-- Whether a text is complete as an item: all its quotes, comments and brackets are closed, and no comma is outside of them. -/
def isComplete (cs : List Char) : Bool := (Place.start.readAll? cs).any Place.isOuter

example : isComplete "NUMERIC(10, 2) DEFAULT 1 /* , /* ) */ */".toList = true := by decide

example : isComplete "TEXT) --".toList = false := by decide

/-- The items of a list up to its closing bracket, after which only blank space and comments may follow. -/
def items? (p : Place) (item : List Char) : List Char → Option (List (List Char))
  | [] => none
  | c :: cs =>
    if p.isOuter ∧ c = ')' then if isBlank .plain cs then some [item] else none
    else if p.isOuter ∧ c = ',' then (items? .start [] cs).map (item :: ·)
    else (p.next? c).bind fun p => items? p (item ++ [c]) cs

theorem items?_append {p p' : Place} {cs : List Char} (h : p.readAll? cs = some p')
    (item ds : List Char) : items? p item (cs ++ ds) = items? p' (item ++ cs) ds := by
  induction cs generalizing p item with
  | nil =>
    cases h
    rw [List.nil_append, List.append_nil]
  | cons c cs ih =>
    obtain ⟨q, hq, hrest⟩ := Option.bind_eq_some_iff.mp h
    have hinner : ¬(p.isOuter = true ∧ (c = ')' ∨ c = ',')) := by
      rintro ⟨hp, hc⟩
      rw [Place.next?_eq_none hp hc] at hq
      cases hq
    have hclose : ¬(p.isOuter = true ∧ c = ')') := fun ⟨hp, hc⟩ => hinner ⟨hp, .inl hc⟩
    have hcomma : ¬(p.isOuter = true ∧ c = ',') := fun ⟨hp, hc⟩ => hinner ⟨hp, .inr hc⟩
    rw [List.cons_append, items?, if_neg hclose, if_neg hcomma, hq, Option.bind_some, ih hrest,
      List.append_assoc, List.singleton_append]

theorem isComplete_iff {cs : List Char} :
    isComplete cs = true ↔ ∃ p, Place.start.readAll? cs = some p ∧ p.isOuter = true := by
  rw [isComplete, Option.any_eq_true]

theorem isComplete_append_space {cs ds : List Char} (hcs : isComplete cs = true) :
    isComplete (cs ++ ' ' :: ds) = isComplete ds := by
  obtain ⟨p, hp, houter⟩ := isComplete_iff.mp hcs
  rw [isComplete, Place.readAll?_append, hp, Option.bind_some, Place.readAll?_cons,
    Place.next?_space houter]
  rfl

/-- A quoted name leaves off where it began, whatever its characters. -/
theorem readAll?_quoteName (identifier : String) :
    Place.start.readAll? (quoteName identifier).toList = some .start := by
  have hinside : ∀ cs : List Char,
      Place.readAll? ⟨.name, 0⟩ (cs.flatMap quoteChar) = some ⟨.name, 0⟩ := by
    intro cs
    induction cs with
    | nil => rfl
    | cons c cs ih =>
      -- A doubled quote ends the name and begins it again.
      have hchar : Place.readAll? ⟨.name, 0⟩ (quoteChar c) = some ⟨.name, 0⟩ := by
        by_cases hc : c = '"'
        · rw [hc]
          rfl
        · simp [quoteChar, hc, Place.next?, Mode.next, Mode.isCode]
      rw [List.flatMap_cons, Place.readAll?_append, hchar, Option.bind_some, ih]
  have hopen : Place.start.next? '"' = some ⟨.name, 0⟩ := rfl
  rw [quoteName, String.toList_ofList, List.cons_append, Place.readAll?_cons, hopen,
    Option.bind_some, Place.readAll?_append, hinside, Option.bind_some]
  rfl

/-! ### Lists that are put together -/

def chars (pieces : List Piece) : List Char := pieces.flatMap fun p => p.text.toList

/-- A complete text is cut off at the comma that joins it to the next. The space after the comma is read before the next text, so an item may have begun. -/
theorem items?_separated_cons {group next : List Piece} (hgroup : isComplete (chars group) = true)
    (groups : List (List Piece)) (begun : List Char) :
    items? .start begun (chars (separated ", " (group :: next :: groups)) ++ [')']) =
      (items? .start [' '] (chars (separated ", " (next :: groups)) ++ [')'])).map
        ((begun ++ chars group) :: ·) := by
  obtain ⟨p, hp, houter⟩ := isComplete_iff.mp hgroup
  have htext : chars (separated ", " (group :: next :: groups)) ++ [')'] =
      chars group ++ ',' :: ' ' :: (chars (separated ", " (next :: groups)) ++ [')']) := by
    simp [separated_cons_cons, chars, Piece.text]
  have hspace : items? .start [] (' ' :: (chars (separated ", " (next :: groups)) ++ [')'])) =
      items? .start [' '] (chars (separated ", " (next :: groups)) ++ [')']) := rfl
  rw [htext, items?_append hp, items?, if_neg (by simp), if_pos ⟨houter, rfl⟩, hspace]

theorem items?_separated (group : List Piece) (groups : List (List Piece))
    (h : ∀ g ∈ group :: groups, isComplete (chars g) = true) (begun : List Char) :
    items? .start begun (chars (separated ", " (group :: groups)) ++ [')']) =
      some ((begun ++ chars group) :: groups.map fun g => ' ' :: chars g) := by
  induction groups generalizing group begun with
  | nil =>
    obtain ⟨p, hp, houter⟩ := isComplete_iff.mp (h group List.mem_cons_self)
    rw [separated_singleton, items?_append hp]
    simp [items?, houter, isBlank, Mode.isClosed]
  | cons next groups ih =>
    have hrest := ih next (fun g hg => h g (List.mem_cons_of_mem group hg)) [' ']
    rw [items?_separated_cons (h group List.mem_cons_self), hrest]
    rfl

/-- Whatever texts follow, complete ones before them are cut apart where they were joined. -/
theorem exists_items?_separated {group : List Piece} {groups : List (List Piece)}
    (h : ∀ g ∈ group :: groups, isComplete (chars g) = true) (others : List (List Piece))
    {begun : List Char} {items : List (List Char)}
    (hitems : items? .start begun (chars (separated ", " (group :: groups ++ others)) ++ [')']) =
      some items) :
    ∃ more, items = (begun ++ chars group) :: (groups.map fun g => ' ' :: chars g) ++ more := by
  have hgroup := h group List.mem_cons_self
  induction groups generalizing group begun items with
  | nil =>
    cases others with
    | nil =>
      rw [List.append_nil, items?_separated group [] h] at hitems
      exact ⟨[], (Option.some.inj hitems).symm⟩
    | cons other others =>
      rw [List.cons_append, List.nil_append, items?_separated_cons hgroup] at hitems
      obtain ⟨more, -, rfl⟩ := Option.map_eq_some_iff.mp hitems
      exact ⟨more, rfl⟩
  | cons next groups ih =>
    rw [List.cons_append, List.cons_append, items?_separated_cons hgroup] at hitems
    obtain ⟨rest, hrest, rfl⟩ := Option.map_eq_some_iff.mp hitems
    have hnext : ∀ g ∈ next :: groups, isComplete (chars g) = true :=
      fun g hg => h g (List.mem_cons_of_mem group hg)
    obtain ⟨more, rfl⟩ := ih hnext hrest (hnext next List.mem_cons_self)
    exact ⟨more, rfl⟩

end VectorTable.Sql
