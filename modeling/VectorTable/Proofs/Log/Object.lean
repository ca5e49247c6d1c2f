import VectorTable.Log.Render
import VectorTable.Proofs.Record.JsonSlot
import VectorTable.Proofs.Vector.Text

/-!
# Events as objects

In production an event becomes one line, and that line is one JSON object, whatever texts the event carries: a message of several lines is escaped like any other text. Two things could spoil it, a double that is no number and a key that cannot name an entry, so the values of its fields must be free of both. Plain text is printed as it is, and its first line is no object unless the text begins with a brace.

The log of a history is what is printed in it, without what the program prints itself. Every line of the log comes from one entry of the history, and every entry that is printed leaves its lines there.
-/

namespace VectorTable

open Decimal

/-! ### Written on one line -/

namespace Json

/-- Whether a character is a printable one of ASCII, the space among them. -/
def isAsciiChar (c : Char) : Bool := 32 ≤ c.toNat && c.toNat < 127

def IsAscii (s : String) : Prop := s.toList.all isAsciiChar = true

instance (s : String) : Decidable (IsAscii s) :=
  inferInstanceAs (Decidable (s.toList.all isAsciiChar = true))

theorem isAscii_iff {s : String} : IsAscii s ↔ ∀ c ∈ s.toList, isAsciiChar c = true :=
  List.all_eq_true

theorem isAsciiChar_iff {c : Char} : isAsciiChar c = true ↔ 32 ≤ c.toNat ∧ c.toNat < 127 := by
  rw [isAsciiChar, Bool.and_eq_true, decide_eq_true_iff, decide_eq_true_iff]

theorem IsAscii.append {s t : String} (hs : IsAscii s) (ht : IsAscii t) : IsAscii (s ++ t) := by
  rw [isAscii_iff, String.toList_append]
  exact List.forall_mem_append.mpr ⟨isAscii_iff.mp hs, isAscii_iff.mp ht⟩

theorem isAsciiChar_of_mem_hex {width n : Nat} {c : Char} (hc : c ∈ Text.hex width n) :
    isAsciiChar c = true := by
  induction width generalizing n with
  | zero => cases hc
  | succ width ih =>
    rw [Text.hex, List.mem_append, List.mem_singleton] at hc
    rcases hc with hfirst | rfl
    · exact ih hfirst
    · have hdigit : ∀ digit < 16, isAsciiChar (Text.hexDigit digit) = true := by decide
      exact hdigit _ (Nat.mod_lt n (by decide))

theorem isAsciiChar_of_mem_unitEscape {unit : Nat} {c : Char} (hc : c ∈ unitEscape unit) :
    isAsciiChar c = true := by
  rw [unitEscape, List.mem_cons, List.mem_cons] at hc
  rcases hc with rfl | rfl | hdigit
  · rfl
  · rfl
  · exact isAsciiChar_of_mem_hex hdigit

theorem isAsciiChar_of_mem_escapeChar {c d : Char} (hd : d ∈ escapeChar c) :
    isAsciiChar d = true := by
  have hpair : ∀ letter, isAsciiChar letter = true → d ∈ ['\\', letter] → isAsciiChar d = true := by
    intro letter hletter hmem
    rcases List.mem_cons.mp hmem with rfl | hlast
    · rfl
    · rwa [List.mem_singleton.mp hlast]
  rw [escapeChar] at hd
  split at hd
  case isTrue hquoted => exact hpair c (by rcases hquoted with rfl | rfl <;> rfl) hd
  split at hd
  · exact hpair 'n' rfl hd
  split at hd
  · exact hpair 'r' rfl hd
  split at hd
  · exact hpair 't' rfl hd
  split at hd
  · exact hpair 'b' rfl hd
  split at hd
  · exact hpair 'f' rfl hd
  split at hd
  case isTrue hprintable =>
    rw [List.mem_singleton.mp hd]
    exact isAsciiChar_iff.mpr hprintable
  split at hd
  · exact isAsciiChar_of_mem_unitEscape hd
  · exact (List.mem_append.mp hd).elim isAsciiChar_of_mem_unitEscape isAsciiChar_of_mem_unitEscape

theorem isAscii_writeText (s : String) : IsAscii (writeText s) := by
  refine isAscii_iff.mpr fun c hc => ?_
  rw [writeText, String.toList_ofList, List.mem_append, List.mem_cons, List.mem_singleton,
    List.mem_flatMap] at hc
  rcases hc with (rfl | ⟨d, -, hbody⟩) | rfl
  · rfl
  · exact isAsciiChar_of_mem_escapeChar hbody
  · rfl

theorem isAsciiChar_of_isNumberChar {c : Char} (hc : isNumberChar c = true) :
    isAsciiChar c = true := by
  rw [isNumberChar, Bool.or_eq_true] at hc
  rcases hc with hdigit | hmark
  · have hbounds : 48 ≤ c.toNat ∧ c.toNat ≤ 57 := Char.isDigit_iff_toNat.mp hdigit
    exact isAsciiChar_iff.mpr ⟨by omega, by omega⟩
  · have hmarks : ['-', '+', '.', 'e'].all isAsciiChar = true := by decide
    exact List.all_eq_true.mp hmarks c (List.contains_iff_mem.mp hmark)

theorem isAscii_int (n : Int) : IsAscii (toString n) := by
  obtain ⟨sign, hsign, htext⟩ := exists_toString_int n
  have hsigns : ∀ sign ∈ [[], ['-']], sign.all isAsciiChar = true := by decide
  refine isAscii_iff.mpr fun c hc => ?_
  rw [htext] at hc
  rcases List.mem_append.mp hc with hfirst | hdigit
  · exact List.all_eq_true.mp (hsigns sign hsign) c hfirst
  · exact isAsciiChar_of_isNumberChar (isNumberChar_of_isDigit
      (Nat.isDigit_of_mem_toDigits (by decide) (by decide) hdigit))

theorem isAscii_float (x : Float) : IsAscii (numberLayout.write x) := by
  cases hdouble : Double.ofFloat x with
  | finite =>
    have hfinite : (Double.ofFloat x).isFinite = true := by rw [hdouble]; rfl
    refine isAscii_iff.mpr fun c hc => ?_
    exact isAsciiChar_of_isNumberChar (numberLayout.isNumberChar_of_mem_write hfinite hc)
  | nan =>
    rw [Layout.write, hdouble]
    decide
  | infinite negative =>
    rw [Layout.write, hdouble]
    cases negative <;> decide

theorem IsAscii.commaSeparated {texts : List String} (h : ∀ text ∈ texts, IsAscii text) :
    IsAscii (commaSeparated texts) := by
  refine isAscii_iff.mpr fun c hc => ?_
  rw [VectorTable.commaSeparated, String.toList_intercalate] at hc
  induction texts with
  | nil => cases hc
  | cons text texts ih =>
    obtain ⟨htext, htexts⟩ := List.forall_mem_cons.mp h
    cases texts with
    | nil =>
      rw [List.map_singleton, List.intercalate_singleton] at hc
      exact isAscii_iff.mp htext c hc
    | cons next texts =>
      have hseparator : IsAscii ", " := by decide
      rw [List.map_cons, List.map_cons, List.intercalate_cons_cons, List.mem_append,
        List.mem_append] at hc
      rcases hc with (hfirst | hcomma) | hrest
      · exact isAscii_iff.mp htext c hfirst
      · exact isAscii_iff.mp hseparator c hcomma
      · exact ih htexts hrest

mutual

theorem isAscii_write : ∀ v, IsAscii (write v)
  | .null => by
    rw [write]
    decide
  | .bool b => by
    rw [write]
    cases b <;> decide
  | .int n => by
    rw [write]
    exact isAscii_int n
  | .float x => by
    rw [write]
    exact isAscii_float x
  | .text s => by
    rw [write]
    exact isAscii_writeText s
  | .uuid canonical => by
    rw [write]
    exact isAscii_writeText canonical
  | .bytes data => by
    rw [write]
    exact isAscii_writeText _
  | .list items => by
    have hfirst : IsAscii "[" := by decide
    have hlast : IsAscii "]" := by decide
    rw [write]
    exact (hfirst.append (.commaSeparated (isAscii_writeItems items))).append hlast
  | .dictionary entries => by
    have hfirst : IsAscii "\x7b" := by decide
    have hlast : IsAscii "\x7d" := by decide
    rw [write]
    exact (hfirst.append (.commaSeparated (isAscii_writeEntries entries))).append hlast

theorem isAscii_writeItems : ∀ items, ∀ text ∈ writeItems items, IsAscii text
  | [] => by
    rw [writeItems]
    exact List.forall_mem_nil _
  | v :: vs => by
    rw [writeItems]
    exact List.forall_mem_cons.mpr ⟨isAscii_write v, isAscii_writeItems vs⟩

theorem isAscii_writeEntries : ∀ entries, ∀ text ∈ writeEntries entries, IsAscii text
  | [] => by
    rw [writeEntries]
    exact List.forall_mem_nil _
  | (key, value) :: entries => by
    have hcolon : IsAscii ": " := by decide
    rw [writeEntries]
    exact List.forall_mem_cons.mpr
      ⟨((isAscii_writeText _).append hcolon).append (isAscii_write value),
        isAscii_writeEntries entries⟩

end

/-- A line that is one JSON object with nothing before or after it. -/
structure IsObjectLine (line : String) : Prop where
  unbroken : '\n' ∉ line.toList
  braced : line.toList.head? = some '\x7b'
  complete : Derives .value line.toList

theorem isObjectLine_write_record {fields : List (String × Value)}
    (hfields : ∀ field ∈ fields, isFinite field.2 = true) :
    IsObjectLine (write (.record fields)) where
  unbroken hmem := by
    have hprintable := isAscii_iff.mp (isAscii_write (.record fields)) '\n' hmem
    cases hprintable
  braced := by
    rw [Value.record, write, String.toList_append, String.toList_append]
    rfl
  complete := (written_write _).derives ((isFinite_record_iff fields).mpr hfields)

theorem allNamedFinite_iff (entries : List (Value × Value)) :
    allNamedFinite entries = true ↔ ∀ entry ∈ entries, isFinite entry.2 = true := by
  induction entries with
  | nil => simp [allNamedFinite]
  | cons entry entries ih => rw [allNamedFinite, Bool.and_eq_true, ih, List.forall_mem_cons]

end Json

/-! ### The values of fields -/

section Entries

variable {κ α : Type} {same : κ → κ → Bool} {P : α → Prop}

/-- Putting an entry changes no value but to the one that is put. -/
theorem forall_mem_putEntry {entries : List (κ × α)} (hentries : ∀ entry ∈ entries, P entry.2)
    (key : κ) {value : α} (hvalue : P value) :
    ∀ entry ∈ putEntry same entries key value, P entry.2 := by
  rw [putEntry]
  split
  · rw [List.forall_mem_map]
    intro entry hentry
    split
    · exact hvalue
    · exact hentries entry hentry
  · exact List.forall_mem_append.mpr ⟨hentries, List.forall_mem_singleton.mpr hvalue⟩

theorem forall_mem_entriesOf {pairs : List (κ × α)} (hpairs : ∀ pair ∈ pairs, P pair.2) :
    ∀ entry ∈ entriesOf same pairs, P entry.2 := by
  -- The induction needs entries that are there before, each with a value of the property.
  have hfold : ∀ entries : List (κ × α), (∀ entry ∈ entries, P entry.2) →
      ∀ entry ∈ pairs.foldl (fun entries pair => putEntry same entries pair.1 pair.2) entries,
        P entry.2 := by
    induction pairs with
    | nil => exact fun entries hentries => hentries
    | cons pair pairs ih =>
      obtain ⟨hpair, hpairs⟩ := List.forall_mem_cons.mp hpairs
      exact fun entries hentries =>
        ih hpairs _ (forall_mem_putEntry hentries pair.1 hpair)
  exact hfold [] (List.forall_mem_nil _)

end Entries

namespace Log

open Json

mutual

/-- What a reader of the log finds has no doubles that were not there before. -/
theorem isFinite_shown : ∀ v, isFinite v = true → isFinite (shown v) = true
  | .null, _ | .bool _, _ | .int _, _ | .text _, _ | .uuid _, _ | .bytes _, _ => rfl
  | .float x, h => h
  | .list items, h => by
    rw [isFinite] at h
    rw [shown, isFinite]
    exact allFinite_shownItems items h
  | .dictionary entries, h => by
    rw [isFinite] at h
    rw [shown, isFinite, allNamedFinite_iff]
    exact forall_mem_entriesOf (P := fun v => isFinite v = true)
      (isFinite_of_mem_shownEntries entries h)

theorem allFinite_shownItems :
    ∀ items, allFinite items = true → allFinite (shownItems items) = true
  | [], _ => rfl
  | v :: vs, h => by
    rw [allFinite, Bool.and_eq_true] at h
    rw [shownItems, allFinite, Bool.and_eq_true]
    exact ⟨isFinite_shown v h.1, allFinite_shownItems vs h.2⟩

theorem isFinite_of_mem_shownEntries : ∀ entries, allNamedFinite entries = true →
    ∀ entry ∈ shownEntries entries, isFinite entry.2 = true
  | [], _ => List.forall_mem_nil _
  | (key, value) :: entries, h => by
    rw [allNamedFinite, Bool.and_eq_true] at h
    rw [shownEntries]
    exact List.forall_mem_cons.mpr
      ⟨isFinite_shown value h.1, isFinite_of_mem_shownEntries entries h.2⟩

end

theorem isFinite_shownField {v : Value} (hv : isFinite v = true) :
    isFinite (shownField v) = true := by
  cases v with
  | bytes data => rfl
  | _ => exact isFinite_shown _ hv

/-- Values that can stand in a JSON object: no key in them fails to name its entry, and all doubles are numbers. -/
structure IsReportable (v : Value) : Prop where
  named : obstacle? none v = none
  finite : isFinite v = true

/-- Fields whose values can stand in a JSON object. -/
def AreReportable (fields : List (String × Value)) : Prop := ∀ field ∈ fields, IsReportable field.2

@[simp] theorem isReportable_text (s : String) : IsReportable (.text s) := ⟨rfl, rfl⟩

@[simp] theorem isReportable_int (n : Int) : IsReportable (.int n) := ⟨rfl, rfl⟩

@[simp] theorem isReportable_bool (b : Bool) : IsReportable (.bool b) := ⟨rfl, rfl⟩

@[simp] theorem isReportable_ofText? (s : Option String) : IsReportable (.ofText? s) := by
  cases s <;> exact ⟨rfl, rfl⟩

@[simp] theorem isReportable_texts (texts : List String) : IsReportable (.list (texts.map .text)) := by
  induction texts with
  | nil => exact ⟨rfl, rfl⟩
  | cons text texts ih =>
    obtain ⟨hnamed, hfinite⟩ := ih
    rw [obstacle?] at hnamed
    rw [isFinite] at hfinite
    refine ⟨?_, ?_⟩
    · rw [List.map_cons, obstacle?, obstacleIn?, hnamed]
      rfl
    · rw [List.map_cons, isFinite, allFinite, hfinite]
      rfl

@[simp] theorem areReportable_nil : AreReportable [] := List.forall_mem_nil _

@[simp] theorem areReportable_cons {field : String × Value} {fields : List (String × Value)} :
    AreReportable (field :: fields) ↔ IsReportable field.2 ∧ AreReportable fields :=
  List.forall_mem_cons

section Events

variable {context : Context} {fields : List (String × Value)}

theorem AreReportable.printedFields (hcontext : AreReportable context)
    (hfields : AreReportable fields) : AreReportable (printedFields context fields) := by
  intro field hfield
  rcases List.mem_append.mp (List.mem_filter.mp hfield).1 with hown | hbound
  · exact hfields field hown
  · exact hcontext field (List.mem_filter.mp hbound).1

theorem isFinite_eventFields (hcontext : AreReportable context) (hfields : AreReportable fields)
    (traced : Bool) (entry : Entry) (name : String) :
    ∀ field ∈ eventFields context traced entry name fields, isFinite field.2 = true := by
  have hown : ∀ field ∈ (printedFields context fields).map
      (fun field => (field.1, shownField field.2)), isFinite field.2 = true := by
    rw [List.forall_mem_map]
    exact fun field hfield =>
      isFinite_shownField (hcontext.printedFields hfields field hfield).finite
  have hadded : ∀ field ∈ [("event", Value.text name), ("level", .text entry.levelName),
      ("logger", .text (shownLogger entry.logger))], isFinite field.2 = true := by
    simp [isFinite]
  have hmark : ∀ field ∈ (if traced then [("traced", Value.bool true)] else []),
      isFinite field.2 = true := by
    cases traced <;> simp [isFinite]
  have hall := List.forall_mem_append.mpr ⟨List.forall_mem_append.mpr ⟨hown, hadded⟩, hmark⟩
  intro field hfield
  exact forall_mem_entriesOf (P := fun v => isFinite v = true) hall field
    (List.mem_filter.mp hfield).1

/-- In production an event is printed without fault, as one line that is one JSON object. -/
theorem exists_render_eq {setup : Setup} (hproduction : setup.production = true)
    (hcontext : AreReportable context) {entry : Entry} {name : String}
    (hentry : entry.content = .event name fields) (hfields : AreReportable fields) (traced : Bool) :
    setup.fault? context entry = none ∧
      ∃ line, setup.render context traced entry = [line] ∧ IsObjectLine line.write := by
  constructor
  · have hnamed := (obstacle?_record_eq_none_iff none _).mpr fun field hfield =>
      (hcontext.printedFields hfields field hfield).named
    rw [Setup.fault?, hentry]
    dsimp only
    rw [if_pos hproduction, hnamed]
    rfl
  · refine ⟨.object (eventFields context traced entry name fields), ?_, ?_⟩
    · rw [Setup.render, hentry]
      dsimp only
      rw [if_pos hproduction]
    · exact isObjectLine_write_record (isFinite_eventFields hcontext hfields traced entry name)

end Events

/-! ### Plain text -/

/-- Whether a text begins with a character, and neither with a line break nor with a brace. Its first line is no object. -/
def isPlain (text : String) : Bool :=
  text.toList.head?.any fun first => first != '\n' && first != '\x7b'

theorem isPlain_iff {text : String} :
    isPlain text = true ↔
      ∃ first rest, text.toList = first :: rest ∧ first ≠ '\n' ∧ first ≠ '\x7b' := by
  rw [isPlain]
  cases text.toList with
  | nil => simp
  | cons first rest => simp

theorem isPlain_append {text : String} (htext : isPlain text = true) (more : String) :
    isPlain (text ++ more) = true := by
  obtain ⟨first, rest, hchars, hplain⟩ := isPlain_iff.mp htext
  refine isPlain_iff.mpr ⟨first, rest ++ more.toList, ?_, hplain⟩
  rw [String.toList_append, hchars, List.cons_append]

theorem exists_not_isObjectLine {text : String} (htext : isPlain text = true) :
    ∃ line ∈ (splitLines text).map Line.text, ¬IsObjectLine line.write := by
  obtain ⟨first, rest, hchars, hbreak, hbrace⟩ := isPlain_iff.mp htext
  obtain ⟨part, parts, hparts⟩ := exists_splitAt_cons hbreak rest
  refine ⟨.text (String.ofList (first :: part)), ?_, fun hobject => hbrace ?_⟩
  · rw [splitLines, hchars, hparts, List.map_cons, List.map_cons]
    exact List.mem_cons_self
  · have hhead := hobject.braced
    rw [Line.write, String.toList_ofList] at hhead
    exact Option.some.inj hhead

/-! ### The log of a history -/

/-- The entries of a history, in order. -/
def entries (h : History) : List Entry :=
  h.filterMap fun
    | .note (.log entry) => some entry
    | _ => none

@[simp] theorem entries_nil : entries [] = [] := rfl

@[simp] theorem entries_append (h₁ h₂ : History) : entries (h₁ ++ h₂) = entries h₁ ++ entries h₂ :=
  List.filterMap_append

theorem mem_entries_iff {h : History} {entry : Entry} :
    entry ∈ entries h ↔ .note (.log entry) ∈ h := by
  rw [entries, List.mem_filterMap]
  constructor
  · rintro ⟨event, hevent, hentry⟩
    split at hentry
    · cases hentry
      exact hevent
    · cases hentry
  · exact fun hmem => ⟨_, hmem, rfl⟩

/-- Whether an event is a text that the program prints itself. -/
def isOutput : Event → Bool
  | .note (.printed _) => true
  | _ => false

/-- The lines of the log of a history: those that are printed, without the texts that the program prints itself. -/
def Setup.logged (setup : Setup) (context : Context) (tracing : Bool) (h : History) : List Line :=
  setup.printed context tracing (h.filter fun event => !isOutput event)

section Logged

variable {setup : Setup} {context : Context} {tracing : Bool}

theorem mem_lines_iff {traced : Bool} {entry : Entry} {line : Line} :
    line ∈ setup.lines context traced entry ↔
      setup.prints entry = true ∧ line ∈ setup.render context traced entry := by
  rw [Setup.lines]
  split
  case isTrue hprints => exact (and_iff_right hprints).symm
  case isFalse hsilent => exact iff_of_false List.not_mem_nil fun h => hsilent h.1

/-- Unless it is printed by the program itself, an event adds the lines of its entry, if it has one. -/
theorem exists_printedFrom_cons {event : Event} (hevent : isOutput event = false) (depth : Nat)
    (h : History) :
    ∃ traced next, setup.printedFrom context tracing depth (event :: h) =
      (entries [event]).flatMap (setup.lines context traced) ++
        setup.printedFrom context tracing next h := by
  refine ⟨tracing && depth != 0, ?_⟩
  -- Only spans change the depth from which the rest is printed.
  cases event with
  | contact contact reply =>
    refine ⟨depth, ?_⟩
    rw [Setup.printedFrom] <;> simp [entries]
  | note note =>
    cases note with
    | log entry =>
      refine ⟨depth, ?_⟩
      rw [Setup.printedFrom]
      simp [entries]
    | printed text => cases hevent
    | spanEntered name attributes =>
      refine ⟨depth + 1, ?_⟩
      rw [Setup.printedFrom]
      rfl
    | spanLeft failure =>
      refine ⟨depth - 1, ?_⟩
      rw [Setup.printedFrom]
      rfl
    | _ =>
      refine ⟨depth, ?_⟩
      rw [Setup.printedFrom] <;> simp [entries]

theorem exists_entry_of_mem_printedFrom {h : History} (hh : ∀ event ∈ h, isOutput event = false)
    {depth : Nat} {line : Line} (hline : line ∈ setup.printedFrom context tracing depth h) :
    ∃ entry ∈ entries h, ∃ traced, line ∈ setup.lines context traced entry := by
  induction h generalizing depth with
  | nil => cases hline
  | cons event h ih =>
    obtain ⟨hevent, hh⟩ := List.forall_mem_cons.mp hh
    obtain ⟨traced, next, hlines⟩ := exists_printedFrom_cons hevent depth h
    rw [hlines, List.mem_append, List.mem_flatMap] at hline
    rw [← List.singleton_append, entries_append]
    rcases hline with ⟨entry, hentry, hline⟩ | hline
    · exact ⟨entry, List.mem_append_left _ hentry, traced, hline⟩
    · obtain ⟨entry, hentry, hrest⟩ := ih hh hline
      exact ⟨entry, List.mem_append_right _ hentry, hrest⟩

theorem exists_lines_subset_printedFrom {h : History} (hh : ∀ event ∈ h, isOutput event = false)
    (depth : Nat) {entry : Entry} (hentry : entry ∈ entries h) :
    ∃ traced, setup.lines context traced entry ⊆ setup.printedFrom context tracing depth h := by
  induction h generalizing depth with
  | nil => cases hentry
  | cons event h ih =>
    obtain ⟨hevent, hh⟩ := List.forall_mem_cons.mp hh
    obtain ⟨traced, next, hlines⟩ := exists_printedFrom_cons hevent depth h
    rw [← List.singleton_append, entries_append, List.mem_append] at hentry
    rw [hlines]
    rcases hentry with hfirst | hrest
    · refine ⟨traced, fun line hline => List.mem_append_left _ ?_⟩
      exact List.mem_flatMap.mpr ⟨entry, hfirst, hline⟩
    · obtain ⟨traced, hsubset⟩ := ih hh next hrest
      exact ⟨traced, fun line hline => List.mem_append_right _ (hsubset hline)⟩

theorem isOutput_of_mem_filter {h : History} :
    ∀ event ∈ h.filter fun event => !isOutput event, isOutput event = false := by
  intro event hevent
  simpa using (List.mem_filter.mp hevent).2

theorem mem_entries_filter_iff {h : History} {entry : Entry} :
    entry ∈ entries (h.filter fun event => !isOutput event) ↔ entry ∈ entries h := by
  rw [mem_entries_iff, mem_entries_iff, List.mem_filter]
  exact and_iff_left rfl

/-- Every line of the log comes from an entry. -/
theorem exists_entry_of_mem_logged {h : History} {line : Line}
    (hline : line ∈ setup.logged context tracing h) :
    ∃ entry ∈ entries h, ∃ traced, line ∈ setup.lines context traced entry := by
  obtain ⟨entry, hentry, hrest⟩ := exists_entry_of_mem_printedFrom isOutput_of_mem_filter hline
  exact ⟨entry, mem_entries_filter_iff.mp hentry, hrest⟩

/-- Every entry leaves its lines in the log. -/
theorem exists_lines_subset_logged {h : History} {entry : Entry} (hentry : entry ∈ entries h) :
    ∃ traced, setup.lines context traced entry ⊆ setup.logged context tracing h :=
  exists_lines_subset_printedFrom isOutput_of_mem_filter 0 (mem_entries_filter_iff.mpr hentry)

end Logged

end Log

end VectorTable
