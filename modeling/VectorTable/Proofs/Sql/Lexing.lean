import Mathlib.Data.List.Chain
import VectorTable.Proofs.Sql.Token

/-!
# The tokens of a statement in pieces

The text of a statement is the text of its pieces, one after the other, and nothing in the text marks where a piece ends. Here it is shown that the tokens of the text are the tokens of the pieces, provided that the pieces are `Legible`: no token can run on from one piece into the next, since of two neighbours the left one ends with a complete token or the right one starts with a character that goes on no token. A name is one token then, whatever its characters.
-/

namespace VectorTable.Sql

namespace Reading

def after (done : List Token) (r : Reading) : Reading := { r with tokens := done ++ r.tokens }

@[simp] theorem readAll?_nil (r : Reading) : r.readAll? [] = some r := rfl

@[simp] theorem readAll?_cons (r : Reading) (c : Char) (cs : List Char) :
    r.readAll? (c :: cs) = (r.next? c).bind fun r => r.readAll? cs := rfl

theorem readAll?_append (r : Reading) (cs ds : List Char) :
    r.readAll? (cs ++ ds) = (r.readAll? cs).bind fun r => r.readAll? ds := by
  simp only [readAll?, List.foldlM_append]
  rfl

theorem next?_after (done : List Token) (r : Reading) (c : Char) :
    (r.after done).next? c = (r.next? c).map (after done) := by
  simp only [next?, after]
  cases r.pending.extend? c with
  | some pending => rfl
  | none =>
    cases r.pending.tokens? with
    | none => rfl
    | some last =>
      cases begin? c with
      | none => rfl
      | some first => simp [after]

theorem readAll?_after (done : List Token) (r : Reading) (cs : List Char) :
    (r.after done).readAll? cs = (r.readAll? cs).map (after done) := by
  induction cs generalizing r with
  | nil => rfl
  | cons c cs ih =>
    rw [readAll?_cons, readAll?_cons, next?_after]
    cases r.next? c with
    | none => rfl
    | some next => exact ih next

theorem finish?_after (done : List Token) (r : Reading) :
    (r.after done).finish? = r.finish?.map (done ++ ·) := by
  simp only [finish?, after]
  cases r.pending.tokens? with
  | none => rfl
  | some last => simp

end Reading

/-! ### One piece -/

/-- The characters that go on no token. -/
def separates (c : Char) : Bool := isSpace c || isMark c || c == ':'

theorem not_goesOn_of_separates {c : Char} (hc : separates c = true) :
    isWordChar c = false ∧ c.isDigit = false ∧ isOperatorChar c = false ∧ c ≠ '"' := by
  have hall : [' ', '\t', '\n', '\x0b', '\x0c', '\r', '(', ')', '[', ']', ',', '.', ';', ':'].all
      (fun d => !isWordChar d && !d.isDigit && !isOperatorChar d && d != '"') = true := by decide
  have hmem : c ∈ [' ', '\t', '\n', '\x0b', '\x0c', '\r', '(', ')', '[', ']', ',', '.', ';', ':'] := by
    simpa [separates, isSpace, isMark, or_assoc] using hc
  simpa [and_assoc] using List.all_eq_true.mp hall c hmem

theorem of_isDigit {p : Char → Bool} (hp : "0123456789".toList.all p = true) {c : Char}
    (hc : c.isDigit = true) : p c = true := by
  have hall : ∀ n ≤ '9'.toNat, '0'.toNat ≤ n → Char.ofNat n ∈ "0123456789".toList := by decide
  obtain ⟨hleast, hgreatest⟩ := Char.isDigit_iff_toNat.mp hc
  have hmem := hall c.toNat hgreatest hleast
  rw [Char.ofNat_toNat] at hmem
  exact List.all_eq_true.mp hp c hmem

theorem Pending.extend?_eq_none {p : Pending} {last : List Token} (hp : p.tokens? = some last)
    {c : Char} (hc : separates c = true) : p.extend? c = none := by
  obtain ⟨hword, hdigit, hoperator, hquote⟩ := not_goesOn_of_separates hc
  cases p with
  | dollar | colon | quoted => cases hp
  | _ => simp [extend?, hword, hdigit, hoperator, hquote]

namespace Piece

def tokens : Piece → List Token
  | raw text => (lex? text).getD []
  | name identifier => [.name identifier]
  | slot index => [.slot index.toNat]

@[simp] theorem tokens_name (identifier : String) :
    (name identifier).tokens = [.name identifier] := rfl

@[simp] theorem tokens_slot (index : Nat) : (slot index).tokens = [.slot index] := rfl

/-- Whether a piece can be read by itself. A slot with a negative index cannot. -/
def readable : Piece → Bool
  | raw text => (lex? text).isSome
  | name _ => true
  | slot index => 0 ≤ index

/-- Whether a piece starts with a character that goes on no token. -/
def beginsApart : Piece → Bool
  | raw text => text.toList.head?.any separates
  | name _ | slot _ => false

/-- Whether the last token of a piece is complete, whatever follows. -/
def endsApart : Piece → Bool
  | raw text => (Reading.start.readAll? text.toList).any fun r => r.pending = .nothing
  | name _ | slot _ => false

/-- Neighbours of which the left one has no token that runs on into the right one. -/
def Apart (p q : Piece) : Prop := p.endsApart = true ∨ q.beginsApart = true

end Piece

namespace Reading

theorem readAll?_flatMap_quoteChar (read cs : List Char) :
    readAll? ⟨[], .quoted read⟩ (cs.flatMap quoteChar) = some ⟨[], .quoted (read ++ cs)⟩ := by
  induction cs generalizing read with
  | nil => simp
  | cons c cs ih =>
    by_cases hc : c = '"'
    · subst hc
      simp [quoteChar, next?, Pending.extend?, ih]
    · simp [quoteChar, hc, next?, Pending.extend?, ih]

theorem readAll?_quoteName (identifier : String) :
    start.readAll? (quoteName identifier).toList = some ⟨[], .closed identifier.toList⟩ := by
  have hopen : start.next? '"' = some ⟨[], .quoted []⟩ := by decide
  simp only [quoteName, String.toList_ofList, List.cons_append, readAll?_cons, hopen,
    Option.bind_some, readAll?_append, readAll?_flatMap_quoteChar, List.nil_append]
  rfl

/-- Digits are read as their number by whatever begins with a digit and goes on with digits. -/
theorem readAll?_toDigits {r : Reading} {pending : Nat → Pending}
    (hfirst : ∀ c, c.isDigit = true → r.next? c = some ⟨[], pending (digitOf c)⟩)
    (hmore : ∀ value c, c.isDigit = true →
      next? ⟨[], pending value⟩ c = some ⟨[], pending (10 * value + digitOf c)⟩) (n : Nat) :
    r.readAll? (Nat.toDigits 10 n) = some ⟨[], pending n⟩ := by
  have hrest : ∀ cs : List Char, (∀ c ∈ cs, c.isDigit = true) → ∀ value,
      readAll? ⟨[], pending value⟩ cs = some ⟨[], pending (Nat.ofDigitChars 10 cs value)⟩ := by
    intro cs
    induction cs with
    | nil => exact fun _ _ => rfl
    | cons c cs ih =>
      intro hcs value
      rw [readAll?_cons, hmore value c (hcs c List.mem_cons_self), Option.bind_some,
        ih fun d hd => hcs d (List.mem_cons_of_mem c hd), Nat.ofDigitChars_cons]
      rfl
  have hdigits : ∀ c ∈ Nat.toDigits 10 n, c.isDigit = true := fun c hc =>
    Nat.isDigit_of_mem_toDigits (by decide) (by decide) hc
  have hvalue : Nat.ofDigitChars 10 (Nat.toDigits 10 n) 0 = n := Nat.ofDigitChars_ten_toDigits
  cases hcs : Nat.toDigits 10 n with
  | nil => exact absurd hcs Nat.toDigits_ne_nil
  | cons c cs =>
    rw [hcs] at hdigits hvalue
    rw [readAll?_cons, hfirst c (hdigits c List.mem_cons_self), Option.bind_some,
      hrest cs fun d hd => hdigits d (List.mem_cons_of_mem c hd)]
    rw [Nat.ofDigitChars_cons, Nat.mul_zero, Nat.zero_add] at hvalue
    rw [digitOf, hvalue]

theorem readAll?_slot (n : Nat) :
    start.readAll? ('$' :: Nat.toDigits 10 n) = some ⟨[], .slot n⟩ := by
  have hdollar : start.next? '$' = some ⟨[], .dollar⟩ := by decide
  rw [readAll?_cons, hdollar, Option.bind_some]
  apply readAll?_toDigits
  · intro c hc
    simp [next?, Pending.extend?, hc]
  · intro value c hc
    simp [next?, Pending.extend?, hc]

theorem readAll?_number (n : Nat) : start.readAll? (Nat.toDigits 10 n) = some ⟨[], .number n⟩ := by
  apply readAll?_toDigits
  · intro c hc
    have hall : "0123456789".toList.all
        (fun c => start.next? c == some ⟨[], .number (digitOf c)⟩) = true := by decide
    exact beq_iff_eq.mp (of_isDigit hall hc)
  · intro value c hc
    simp [next?, Pending.extend?, hc]

theorem readAll?_start {p : Piece} (hp : p.readable = true) :
    ∃ r, start.readAll? p.text.toList = some r ∧ r.finish? = some p.tokens ∧
      (p.endsApart = true → r.pending = .nothing) := by
  cases p with
  | raw text =>
    simp only [Piece.readable, lex?, Option.isSome_iff_exists, Option.bind_eq_bind,
      Option.bind_eq_some_iff] at hp
    obtain ⟨tokens, r, hread, hfinish⟩ := hp
    refine ⟨r, hread, ?_, fun hends => ?_⟩
    · simp [Piece.tokens, lex?, hread, hfinish]
    · simpa [Piece.endsApart, hread] using hends
  | name identifier =>
    refine ⟨_, readAll?_quoteName identifier, ?_, fun hends => by cases hends⟩
    simp [finish?, Pending.tokens?, Piece.tokens]
  | slot index =>
    obtain ⟨n, rfl⟩ := Int.eq_ofNat_of_zero_le (by simpa [Piece.readable] using hp)
    refine ⟨⟨[], .slot n⟩, ?_, rfl, fun hends => by cases hends⟩
    have htext : (Piece.slot n).text.toList = '$' :: Nat.toDigits 10 n := by
      rw [Piece.text, String.toList_append]
      exact congrArg ('$' :: ·) Nat.toList_repr
    rw [htext]
    exact readAll?_slot n

end Reading

/-! ### Pieces in a row -/

namespace Reading

theorem eq_after_start {r : Reading} {done : List Token} (hr : r.finish? = some done)
    (hpending : r.pending = .nothing) : r = start.after done := by
  obtain ⟨tokens, pending⟩ := r
  subst hpending
  simp only [finish?, Pending.tokens?, Option.bind_eq_bind, Option.bind_some, List.append_nil,
    Option.pure_def, Option.some.injEq] at hr
  subst hr
  simp [after, start]

/-- After complete tokens, a character that goes on none of them is read as at the start. -/
theorem next?_of_separates {r : Reading} {done : List Token} (hr : r.finish? = some done)
    {c : Char} (hc : separates c = true) : r.next? c = (start.after done).next? c := by
  simp only [finish?, Option.bind_eq_bind, Option.bind_eq_some_iff, Option.pure_def,
    Option.some.injEq] at hr
  obtain ⟨last, hlast, rfl⟩ := hr
  have hnothing : Pending.nothing.extend? c = none := rfl
  have hempty : Pending.nothing.tokens? = some [] := rfl
  simp only [next?, after, start, Pending.extend?_eq_none hlast hc, hlast, hnothing, hempty,
    Option.bind_eq_bind, Option.bind_some, List.append_nil]

theorem readAll?_piece {r : Reading} {done : List Token} (hr : r.finish? = some done) {p : Piece}
    (hp : p.readable = true) (hapart : r.pending = .nothing ∨ p.beginsApart = true) :
    ∃ r', r.readAll? p.text.toList = some r' ∧ r'.finish? = some (done ++ p.tokens) ∧
      (p.endsApart = true → r'.pending = .nothing) := by
  have hstart : r.readAll? p.text.toList = (start.after done).readAll? p.text.toList := by
    rcases hapart with hpending | hbegins
    · rw [eq_after_start hr hpending]
    · cases p with
      | raw text =>
        simp only [Piece.beginsApart, Option.any_eq_true] at hbegins
        obtain ⟨c, hhead, hc⟩ := hbegins
        obtain ⟨cs, hcs⟩ := List.head?_eq_some_iff.mp hhead
        simp only [Piece.text, hcs, readAll?_cons, next?_of_separates hr hc]
      | name | slot => cases hbegins
  obtain ⟨r', hread, hfinish, hends⟩ := readAll?_start hp
  refine ⟨r'.after done, ?_, ?_, hends⟩
  · rw [hstart, readAll?_after, hread]
    rfl
  · rw [finish?_after, hfinish]
    rfl

theorem readAll?_pieces {pieces : List Piece} (hread : ∀ p ∈ pieces, p.readable = true)
    (hchain : pieces.IsChain Piece.Apart) {r : Reading} {done : List Token}
    (hr : r.finish? = some done)
    (hfirst : r.pending = .nothing ∨ ∀ p ∈ pieces.head?, p.beginsApart = true) :
    ((r.readAll? (pieces.flatMap fun p => p.text.toList)).bind finish?) =
      some (done ++ pieces.flatMap Piece.tokens) := by
  -- The invariant is that the token that may go on does not go on into the next piece.
  induction pieces generalizing r done with
  | nil => simp [hr]
  | cons p pieces ih =>
    obtain ⟨r', hp, hfinish, hends⟩ := readAll?_piece hr (hread p List.mem_cons_self)
      (hfirst.imp_right fun h => h p rfl)
    have hnext : r'.pending = .nothing ∨ ∀ q ∈ pieces.head?, q.beginsApart = true := by
      cases pieces with
      | nil => exact .inr (by simp)
      | cons q pieces =>
        have hpq : p.Apart q := hchain.rel
        exact hpq.imp hends fun h q' hq' => by
          cases hq'
          exact h
    rw [List.flatMap_cons, List.flatMap_cons, readAll?_append, hp, Option.bind_some,
      ih (fun q hq => hread q (List.mem_cons_of_mem p hq)) hchain.tail hfinish hnext,
      List.append_assoc]

end Reading

theorem toList_render (pieces : List Piece) :
    (render pieces).toList = pieces.flatMap fun p => p.text.toList := by
  rw [render, String.toList_join, List.flatMap_map]

/-- Pieces that can be read one by one because the tokens of neighbours stay apart. -/
structure Legible (pieces : List Piece) : Prop where
  readable : ∀ p ∈ pieces, p.readable = true
  apart : pieces.IsChain Piece.Apart

theorem lex?_render {pieces : List Piece} (h : Legible pieces) :
    lex? (render pieces) = some (pieces.flatMap Piece.tokens) := by
  have hstart : Reading.start.finish? = some [] := rfl
  rw [lex?, toList_render]
  exact Reading.readAll?_pieces h.readable h.apart hstart (.inl rfl)

/-! ### Building legible statements -/

def Piece.isGlue (p : Piece) : Bool := p.readable && p.beginsApart && p.endsApart

theorem legible_singleton {p : Piece} (hp : p.readable = true) : Legible [p] :=
  ⟨by simpa using hp, .singleton p⟩

theorem Legible.append {first second : List Piece} (hfirst : Legible first)
    (hsecond : Legible second)
    (h : (∀ p ∈ first.getLast?, p.endsApart = true) ∨ ∀ q ∈ second.head?, q.beginsApart = true) :
    Legible (first ++ second) := by
  refine ⟨fun p hp => ?_, hfirst.apart.append hsecond.apart fun p hp q hq => ?_⟩
  · exact (List.mem_append.mp hp).elim (hfirst.readable p) (hsecond.readable p)
  · exact h.imp (fun h => h p hp) (fun h => h q hq)

theorem Legible.cons {p : Piece} {pieces : List Piece} (h : Legible pieces)
    (hp : (p.readable && p.endsApart) = true) : Legible (p :: pieces) := by
  obtain ⟨hread, hends⟩ := Bool.and_eq_true_iff.mp hp
  exact (legible_singleton hread).append h (.inl fun q hq => by cases hq; exact hends)

theorem Legible.concat {p : Piece} {pieces : List Piece} (h : Legible pieces)
    (hp : (p.readable && p.beginsApart) = true) : Legible (pieces ++ [p]) := by
  obtain ⟨hread, hbegins⟩ := Bool.and_eq_true_iff.mp hp
  exact h.append (legible_singleton hread) (.inr fun q hq => by cases hq; exact hbegins)

theorem Legible.glue {first second : List Piece} {p : Piece} (hfirst : Legible first)
    (hp : p.isGlue = true) (hsecond : Legible second) : Legible (first ++ p :: second) := by
  simp only [Piece.isGlue, Bool.and_eq_true] at hp
  obtain ⟨⟨hread, hbegins⟩, hends⟩ := hp
  have hrest : Legible (p :: second) := hsecond.cons (by simp [hread, hends])
  exact hfirst.append hrest (.inr fun q hq => by cases hq; exact hbegins)

theorem separated_singleton (separator : String) (group : List Piece) :
    separated separator [group] = group := List.intercalate_singleton

theorem separated_cons_cons (separator : String) (group next : List Piece)
    (groups : List (List Piece)) :
    separated separator (group :: next :: groups) =
      group ++ .raw separator :: separated separator (next :: groups) := by
  simp [separated, List.intercalate_cons_cons]

theorem legible_separated {separator : String} (hseparator : (Piece.raw separator).isGlue = true)
    {groups : List (List Piece)} (hgroups : ∀ group ∈ groups, Legible group) :
    Legible (separated separator groups) := by
  induction groups with
  | nil => exact ⟨by simp [separated], .nil⟩
  | cons group groups ih =>
    have hrest := ih fun g hg => hgroups g (List.mem_cons_of_mem group hg)
    cases groups with
    | nil =>
      rw [separated_singleton]
      exact hgroups group List.mem_cons_self
    | cons next groups =>
      rw [separated_cons_cons]
      exact (hgroups group List.mem_cons_self).glue hseparator hrest

end VectorTable.Sql
