import Mathlib.Data.List.TakeWhile
import VectorTable.Setting.Source

/-!
# Lines of environment files

A file is read as one text, so a quote that a line leaves open may swallow the lines after it, and a value may refer to names that other lines or the environment give. A file none of whose lines leaves a quote open is read line by line. What it then says of a name is said by the lines that have the name, as long as these refer to no other.
-/

namespace VectorTable.Setting

open Text

/-! ### Lines that end where they end -/

/-- Whether a quote that was opened before a text closes in it, whatever comes after. -/
def closesQuote (quote : Char) : List Char → Bool
  | [] => false
  | [c] => c == quote
  | c :: d :: cs =>
    if c = quote then true
    else if c = '\\' ∧ d = quote then closesQuote quote cs
    else closesQuote quote (d :: cs)

/-- Whether a value closes the quote that it opens with, if it does. -/
def closesValue : List Char → Bool
  | '\'' :: cs => closesQuote '\'' cs
  | '"' :: cs => closesQuote '"' cs
  | _ => true

/-- Whether a name closes the quote that it opens with, if it does. -/
def closesName : List Char → Bool
  | '\'' :: cs => cs.contains '\''
  | _ => true

/-- Whether the name and the value of an assignment close their quotes. -/
def closesAssignment (cs : List Char) : Bool :=
  closesName (skipExport cs) &&
    match readName (skipExport cs) with
    | none => true
    | some (_, rest) =>
      match skipBlanks rest with
      | '=' :: more => closesValue (skipBlanks more)
      | _ => true

/-- A line that ends nowhere before its end and leaves no quote open. -/
structure IsClosedLine (line : List Char) : Prop where
  oneLine : ∀ c ∈ line, endsLine c = false
  closes : closesAssignment (line.dropWhile isBlank) = true

instance (line : List Char) : Decidable (IsClosedLine line) :=
  decidable_of_iff
    (line.any endsLine = false ∧ closesAssignment (line.dropWhile isBlank) = true)
    ⟨fun h => ⟨fun c hc => Bool.eq_false_iff.mpr (List.any_eq_false.mp h.1 c hc), h.2⟩,
      fun h => ⟨List.any_eq_false.mpr fun c hc => Bool.eq_false_iff.mp (h.oneLine c hc), h.closes⟩⟩

/-- The assignment that a line makes by itself. -/
def lineAssignment (line : List Char) : Option Assignment :=
  (readAssignment (line.dropWhile isBlank)).1

/-! ### Reading up to the end of a line -/

/-- What may follow a line in a file: nothing, or the next line. -/
def StartsLine (tail : List Char) : Prop := ∀ c ∈ tail.head?, c = '\n'

theorem startsLine_nil : StartsLine [] := nofun

theorem startsLine_cons (cs : List Char) : StartsLine ('\n' :: cs) :=
  fun _ hc => Option.some.inj hc.symm

/-- A text that begins with the word `export` and a blank. -/
def IsExport (cs : List Char) : Prop :=
  ∃ c rest, isLineBlank c = true ∧ cs = "export".toList ++ c :: rest

theorem skipExport_of_export {c : Char} (hc : isLineBlank c = true) (rest : List Char) :
    skipExport ("export".toList ++ c :: rest) = skipBlanks rest := if_pos hc

theorem skipExport_of_not_export {cs : List Char} (h : ¬IsExport cs) : skipExport cs = cs := by
  fun_cases skipExport cs
  case case1 c rest hblank => exact absurd ⟨c, rest, hblank, rfl⟩ h
  case case2 => rfl
  case case3 => rfl

section Tail

variable {tail : List Char} (htail : StartsLine tail)

include htail

theorem takeWhile_append_tail {p : Char → Bool} (hp : p '\n' = false) (cs : List Char) :
    (cs ++ tail).takeWhile p = cs.takeWhile p := by
  induction cs with
  | nil =>
    cases tail with
    | nil => rfl
    | cons c tail =>
      obtain rfl := htail c rfl
      exact List.takeWhile_cons_of_neg (by simp [hp])
  | cons c cs ih => rw [List.cons_append, List.takeWhile_cons, List.takeWhile_cons, ih]

theorem dropWhile_append_tail {p : Char → Bool} (hp : p '\n' = false) (cs : List Char) :
    (cs ++ tail).dropWhile p = cs.dropWhile p ++ tail := by
  induction cs with
  | nil =>
    cases tail with
    | nil => rfl
    | cons c tail =>
      obtain rfl := htail c rfl
      exact List.dropWhile_cons_of_neg (by simp [hp])
  | cons c cs ih =>
    rw [List.cons_append, List.dropWhile_cons, List.dropWhile_cons, ih]
    split <;> rfl

theorem append_tail_ne_cons {c : Char} (hc : c ≠ '\n') {cs : List Char}
    (hcs : ∀ rest, cs ≠ c :: rest) (rest : List Char) : cs ++ tail ≠ c :: rest := by
  intro heq
  cases cs with
  | nil =>
    rw [List.nil_append] at heq
    exact hc (htail c (by rw [heq]; rfl))
  | cons d cs => exact hcs cs (by rw [(List.cons.inj heq).1])

theorem skipBlanks_append_tail (cs : List Char) : skipBlanks (cs ++ tail) = skipBlanks cs ++ tail :=
  dropWhile_append_tail htail (by decide) cs

theorem isLineEnd_append_tail (cs : List Char) : isLineEnd (cs ++ tail) = isLineEnd cs := by
  rw [isLineEnd, isLineEnd, skipBlanks_append_tail htail]
  cases skipBlanks cs with
  | cons c cs => rfl
  | nil =>
    cases tail with
    | nil => rfl
    | cons c tail =>
      obtain rfl := htail c rfl
      rfl

theorem skipExport_append_tail (cs : List Char) :
    skipExport (cs ++ tail) = skipExport cs ++ tail := by
  have hnewline : ∀ c rest, tail = c :: rest → isLineBlank c = false := by
    rintro c rest rfl
    obtain rfl := htail c rfl
    rfl
  by_cases hexport : IsExport cs
  · obtain ⟨c, rest, hc, rfl⟩ := hexport
    rw [List.append_assoc, List.cons_append, skipExport_of_export hc, skipExport_of_export hc,
      skipBlanks_append_tail htail]
  · rw [skipExport_of_not_export hexport, skipExport_of_not_export]
    rintro ⟨c, rest, hc, heq⟩
    rcases List.append_eq_append_iff.mp heq with ⟨word, hword, hrest⟩ | ⟨more, hmore, hrest⟩
    -- The word would have to go on after the line.
    · cases word with
      | nil => simp [hnewline c rest hrest] at hc
      | cons d word =>
        rw [List.cons_append] at hrest
        have hd : d ∈ "export".toList := by simp [hword]
        obtain rfl := htail d (by rw [hrest]; rfl)
        exact absurd hd (by decide)
    · cases more with
      | nil => simp [hnewline c rest hrest.symm] at hc
      | cons d more =>
        obtain ⟨rfl, -⟩ := List.cons.inj hrest
        exact hexport ⟨c, more, hc, hmore⟩

end Tail

/-! ### Assignments -/

/-- Where a quote closes does not depend on what comes after. -/
theorem exists_upToQuote {quote : Char} {cs : List Char} (h : closesQuote quote cs = true) :
    ∃ text left, left ⊆ cs ∧ ∀ tail, upToQuote quote (cs ++ tail) = some (text, left ++ tail) := by
  fun_induction closesQuote quote cs with
  | case1 => cases h
  | case2 c =>
    obtain rfl := beq_iff_eq.mp h
    refine ⟨[], [], List.nil_subset _, fun tail => ?_⟩
    cases tail <;> simp [upToQuote]
  | case3 d cs => exact ⟨[], d :: cs, List.subset_cons_self _ _, fun tail => by simp [upToQuote]⟩
  | case4 c d cs hc hescaped ih =>
    obtain ⟨rfl, rfl⟩ := hescaped
    obtain ⟨text, left, hleft, hread⟩ := ih h
    refine ⟨'\\' :: d :: text, left, fun x hx => ?_, fun tail => ?_⟩
    · exact List.mem_cons_of_mem _ (List.mem_cons_of_mem _ (hleft hx))
    · simp [upToQuote, hc, hread tail]
  | case5 c d cs hc hescaped ih =>
    obtain ⟨text, left, hleft, hread⟩ := ih h
    refine ⟨c :: text, left, fun x hx => List.mem_cons_of_mem _ (hleft hx), fun tail => ?_⟩
    have hnext := hread tail
    rw [List.cons_append] at hnext
    simp [upToQuote, hc, hescaped, hnext]

theorem readAssigned_bare {cs : List Char} (hsingle : ∀ rest, cs ≠ '\'' :: rest)
    (hdouble : ∀ rest, cs ≠ '"' :: rest) :
    readAssigned cs = some (String.ofList (bareValue (cs.takeWhile fun c => !endsLine c)),
      cs.dropWhile fun c => !endsLine c) := by
  fun_cases readAssigned cs
  case case1 rest => exact absurd rfl (hsingle rest)
  case case2 rest => exact absurd rfl (hdouble rest)
  case case3 => rfl

theorem exists_readAssigned {cs : List Char} (h : closesValue cs = true) :
    ∃ value left, left ⊆ cs ∧ ∀ tail, StartsLine tail →
      readAssigned (cs ++ tail) = some (value, left ++ tail) := by
  fun_cases closesValue cs
  case case1 cs =>
    obtain ⟨text, left, hleft, hread⟩ := exists_upToQuote h
    refine ⟨.ofList (unescape singleQuoteEscape text), left,
      fun x hx => List.mem_cons_of_mem _ (hleft hx), fun tail _ => ?_⟩
    simp [readAssigned, hread tail]
  case case2 cs =>
    obtain ⟨text, left, hleft, hread⟩ := exists_upToQuote h
    refine ⟨.ofList (unescape doubleQuoteEscape text), left,
      fun x hx => List.mem_cons_of_mem _ (hleft hx), fun tail _ => ?_⟩
    simp [readAssigned, hread tail]
  case case3 hsingle hdouble =>
    refine ⟨.ofList (bareValue (cs.takeWhile fun c => !endsLine c)), _,
      List.dropWhile_subset fun c => !endsLine c, fun tail htail => ?_⟩
    rw [readAssigned_bare (append_tail_ne_cons htail (by decide) hsingle)
      (append_tail_ne_cons htail (by decide) hdouble), takeWhile_append_tail htail (by decide),
      dropWhile_append_tail htail (by decide)]

theorem readName_quoted {name : List Char} (hname : '\'' ∉ name) (rest : List Char) :
    readName ('\'' :: (name ++ '\'' :: rest)) = some (String.ofList name, rest) := by
  have hchars : ∀ c ∈ name, (c != '\'') = true := by
    intro c hc
    rw [bne_iff_ne]
    rintro rfl
    exact hname hc
  simp [readName, List.takeWhile_append_of_pos hchars, List.dropWhile_append_of_pos hchars]

theorem readName_bare {cs : List Char} (h : ∀ rest, cs ≠ '\'' :: rest) :
    readName cs = if cs.takeWhile isNameChar = [] then none
      else some (String.ofList (cs.takeWhile isNameChar), cs.dropWhile isNameChar) := by
  fun_cases readName cs
  case case1 => exact absurd rfl (h _)
  case case2 => exact absurd rfl (h _)
  case case3 hnil _ => simp [hnil]
  case case4 hcons =>
    cases htake : cs.takeWhile isNameChar with
    | nil => exact absurd htake hcons
    | cons c name => rfl

/-- Where a name ends does not depend on what comes after the line. -/
theorem exists_readName {cs : List Char} (h : closesName cs = true) :
    (∀ tail, StartsLine tail → readName (cs ++ tail) = none) ∨
      ∃ name rest, rest ⊆ cs ∧ ∀ tail, StartsLine tail →
        readName (cs ++ tail) = some (name, rest ++ tail) := by
  fun_cases closesName cs
  case case1 cs =>
    obtain ⟨name, rest, rfl, hname⟩ := List.eq_append_cons_of_mem (List.contains_iff_mem.mp h)
    refine .inr ⟨.ofList name, rest, fun x hx => by simp [hx], fun tail _ => ?_⟩
    rw [← readName_quoted hname, List.cons_append, List.append_assoc, List.cons_append]
  case case2 hquote =>
    have hquote : ∀ tail, StartsLine tail → ∀ rest, cs ++ tail ≠ '\'' :: rest :=
      fun tail htail => append_tail_ne_cons htail (by decide) hquote
    by_cases hnil : cs.takeWhile isNameChar = []
    · refine .inl fun tail htail => ?_
      rw [readName_bare (hquote tail htail), takeWhile_append_tail htail (by decide), if_pos hnil]
    · refine .inr ⟨.ofList (cs.takeWhile isNameChar), _, List.dropWhile_subset isNameChar,
        fun tail htail => ?_⟩
      rw [readName_bare (hquote tail htail), takeWhile_append_tail htail (by decide), if_neg hnil,
        dropWhile_append_tail htail (by decide)]

theorem skipExport_subset (cs : List Char) : skipExport cs ⊆ cs := by
  fun_cases skipExport cs
  case case1 c rest _ =>
    intro x hx
    have hrest := List.dropWhile_subset _ hx
    simp [hrest]
  case case2 => exact List.Subset.refl _
  case case3 => exact List.Subset.refl _

theorem readAssignment_alone {cs rest : List Char} {name : String}
    (hread : readName (skipExport cs) = some (name, rest))
    (hnot : ∀ more, skipBlanks rest ≠ '=' :: more) :
    readAssignment cs =
      (if isLineEnd (skipBlanks rest) then some (name, none) else none, skipBlanks rest) := by
  rw [readAssignment, hread]
  dsimp only
  generalize skipBlanks rest = blanks at hnot
  cases blanks with
  | nil => rfl
  | cons c more =>
    have hc : c ≠ '=' := fun hc => hnot more (by rw [hc])
    split
    case h_1 heq => exact absurd (List.cons.inj heq).1 hc
    case h_2 => rfl

/-- What an assignment that closes its quotes says, and where it ends, does not depend on what comes after the line. -/
theorem exists_readAssignment {cs : List Char} (h : closesAssignment cs = true) :
    ∃ assignment left, left ⊆ cs ∧ ∀ tail, StartsLine tail →
      readAssignment (cs ++ tail) = (assignment, left ++ tail) := by
  rw [closesAssignment, Bool.and_eq_true] at h
  obtain ⟨hname, hvalue⟩ := h
  rcases exists_readName hname with hnone | ⟨name, rest, hrest, hread⟩
  · refine ⟨none, skipExport cs, skipExport_subset cs, fun tail htail => ?_⟩
    rw [readAssignment, skipExport_append_tail htail, hnone tail htail]
  · have hself := hread [] startsLine_nil
    rw [List.append_nil, List.append_nil] at hself
    rw [hself] at hvalue
    dsimp only at hvalue
    have hblanks : skipBlanks rest ⊆ cs := fun x hx =>
      skipExport_subset cs (hrest (List.dropWhile_subset _ hx))
    have hskip : ∀ tail, StartsLine tail →
        skipBlanks (rest ++ tail) = skipBlanks rest ++ tail := fun tail htail =>
      skipBlanks_append_tail htail rest
    split at hvalue
    case h_1 more hmore =>
      obtain ⟨value, left, hleft, hassigned⟩ := exists_readAssigned hvalue
      refine ⟨if isLineEnd left then some (name, some value) else none, left, fun x hx => ?_,
        fun tail htail => ?_⟩
      · have hx := List.dropWhile_subset _ (hleft hx)
        exact hblanks (by rw [hmore]; exact List.mem_cons_of_mem _ hx)
      · simp only [readAssignment, skipExport_append_tail htail, hread tail htail, hskip tail htail,
          hmore, List.cons_append, skipBlanks_append_tail htail, hassigned tail htail,
          isLineEnd_append_tail htail]
    case h_2 hother =>
      refine ⟨if isLineEnd (skipBlanks rest) then some (name, none) else none, skipBlanks rest,
        hblanks, fun tail htail => ?_⟩
      have hname : readName (skipExport (cs ++ tail)) = some (name, rest ++ tail) := by
        rw [skipExport_append_tail htail, hread tail htail]
      rw [readAssignment_alone hname, hskip tail htail, isLineEnd_append_tail htail]
      rw [hskip tail htail]
      exact append_tail_ne_cons htail (by decide) hother

/-! ### Files -/

theorem skipLine_append_tail {left : List Char} (hleft : ∀ c ∈ left, endsLine c = false)
    {tail : List Char} (htail : StartsLine tail) : skipLine (left ++ tail) = tail.drop 1 := by
  have hnone : left.dropWhile (fun c => !endsLine c) = [] := by
    refine List.dropWhile_eq_nil_iff.mpr fun c hc => ?_
    rw [hleft c hc]
    rfl
  rw [skipLine, dropWhile_append_tail htail (by decide), hnone, List.nil_append]

theorem dropWhile_isBlank_tail {tail : List Char} (htail : StartsLine tail) :
    tail.dropWhile isBlank = (tail.drop 1).dropWhile isBlank := by
  cases tail with
  | nil => rfl
  | cons c tail =>
    obtain rfl := htail c rfl
    exact List.dropWhile_cons_of_pos (by decide)

/-- Blanks before the first assignment make no difference. -/
theorem readAssignments_congr {cs ds : List Char} (h : cs.dropWhile isBlank = ds.dropWhile isBlank)
    (fuel : Nat) : readAssignments fuel cs = readAssignments fuel ds := by
  cases fuel with
  | zero => rfl
  | succ fuel => rw [readAssignments, readAssignments, h]

theorem readAssignments_succ {cs : List Char} (h : cs.dropWhile isBlank ≠ []) (fuel : Nat) :
    readAssignments (fuel + 1) cs = (readAssignment (cs.dropWhile isBlank)).1.toList ++
      readAssignments fuel (skipLine (readAssignment (cs.dropWhile isBlank)).2) := by
  rw [readAssignments]
  cases hcs : cs.dropWhile isBlank with
  | nil => exact absurd hcs h
  | cons c cs => rfl

/-- The first line is read by itself, and then the lines after it. -/
theorem exists_readAssignments {line tail : List Char} (hline : IsClosedLine line)
    (htail : StartsLine tail) {fuel : Nat} (hfuel : (line ++ tail).length ≤ fuel) :
    ∃ left, (tail.drop 1).length ≤ left ∧ readAssignments fuel (line ++ tail) =
      (lineAssignment line).toList ++ readAssignments left (tail.drop 1) := by
  have hrest : (tail.drop 1).length ≤ (line ++ tail).length := by
    rw [List.length_drop, List.length_append]
    omega
  by_cases hblank : line.dropWhile isBlank = []
  · have hnone : (lineAssignment line).toList = [] := by
      rw [lineAssignment, hblank]
      rfl
    refine ⟨fuel, Nat.le_trans hrest hfuel, ?_⟩
    rw [hnone, List.nil_append]
    apply readAssignments_congr
    rw [List.dropWhile_append, hblank, dropWhile_isBlank_tail htail]
    rfl
  · obtain ⟨assignment, left, hleft, hread⟩ := exists_readAssignment hline.closes
    have hends : ∀ c ∈ left, endsLine c = false := fun c hc =>
      hline.oneLine c (List.dropWhile_subset _ (hleft hc))
    have hfirst : (line ++ tail).dropWhile isBlank = line.dropWhile isBlank ++ tail := by
      rw [List.dropWhile_append, if_neg (by simpa using hblank)]
    have hself := hread [] startsLine_nil
    rw [List.append_nil, List.append_nil] at hself
    obtain ⟨fuel, rfl⟩ : ∃ n, fuel = n + 1 := by
      cases fuel with
      | succ n => exact ⟨n, rfl⟩
      | zero =>
        rw [Nat.le_zero, List.length_eq_zero_iff, List.append_eq_nil_iff] at hfuel
        exact absurd (by rw [hfuel.1]; rfl) hblank
    have hshort : (tail.drop 1).length ≤ fuel := by
      have hlength : 0 < line.length :=
        List.length_pos_iff.mpr fun hnil => hblank (by rw [hnil]; rfl)
      rw [List.length_append] at hfuel
      rw [List.length_drop]
      omega
    refine ⟨fuel, hshort, ?_⟩
    rw [readAssignments_succ (by rw [hfirst]; simp [hblank]), hfirst, hread tail htail,
      skipLine_append_tail hends htail, lineAssignment, hself]

theorem filterMap_singleton (line : List Char) :
    [line].filterMap lineAssignment = (lineAssignment line).toList := by
  cases h : lineAssignment line <;> simp [h]

theorem readAssignments_intercalate {lines : List (List Char)}
    (h : ∀ line ∈ lines, IsClosedLine line)
    {fuel : Nat} (hfuel : (['\n'].intercalate lines).length ≤ fuel) :
    readAssignments fuel (['\n'].intercalate lines) = lines.filterMap lineAssignment := by
  have hnil : ∀ fuel, readAssignments fuel [] = [] := by
    intro fuel
    cases fuel <;> rfl
  induction lines generalizing fuel with
  | nil => exact hnil fuel
  | cons line lines ih =>
    have hfirst := h line List.mem_cons_self
    have hothers : ∀ other ∈ lines, IsClosedLine other := fun other hother =>
      h other (List.mem_cons_of_mem _ hother)
    cases lines with
    | nil =>
      rw [List.intercalate_singleton] at hfuel ⊢
      rw [← List.append_nil line] at hfuel ⊢
      obtain ⟨left, -, hread⟩ := exists_readAssignments hfirst startsLine_nil hfuel
      rw [hread, List.drop_nil, hnil, List.append_nil, List.append_nil]
      exact (filterMap_singleton line).symm
    | cons next lines =>
      rw [List.intercalate_cons_cons, List.append_assoc, List.singleton_append] at hfuel ⊢
      obtain ⟨left, hleft, hread⟩ := exists_readAssignments hfirst (startsLine_cons _) hfuel
      rw [List.drop_one, List.tail_cons] at hleft hread
      rw [hread, ih hothers hleft, ← filterMap_singleton, ← List.filterMap_append,
        List.singleton_append]

/-! ### What a file says of a name -/

/-- Whether an entry has a name, in any letter case. -/
def hasName {α : Type} (name : String) (entry : String × α) : Bool := lowerAscii entry.1 == name

/-- Whether a line makes an assignment to a name. -/
def isAbout (name : String) (line : String) : Bool :=
  (lineAssignment line.toList).any (hasName name)

/-- Whether a value has the sign that starts a reference. -/
def HasReference (value : String) : Prop := ['$', '\x7b'] <:+: value.toList

instance (value : String) : Decidable (HasReference value) := inferInstanceAs (Decidable (_ <:+: _))

theorem expandFrom_of_not_infix (known : List Assignment) (fuel : Nat) {cs : List Char}
    (h : ¬['$', '\x7b'] <:+: cs) : expandFrom known fuel cs = cs := by
  have hstart : ∀ rest, ¬['$', '\x7b'] <:+: '$' :: '\x7b' :: rest → False := fun rest hrest =>
    hrest (List.prefix_append _ rest).isInfix
  fun_induction expandFrom known fuel cs with
  | case1 => rfl
  | case2 => rfl
  | case3 => exact (hstart _ h).elim
  | case4 => exact (hstart _ h).elim
  | case5 fuel c cs _ ih => rw [ih fun hcs => h (List.infix_cons hcs)]

theorem expand_of_not_hasReference (known : List Assignment) {value : String}
    (h : ¬HasReference value) : expand known value = value := by
  rw [expand, expandFrom_of_not_infix known _ h, String.ofList_toList]

/-- What is kept of a list that is built up step by step is built up by the steps that count. -/
theorem filter_foldl {α β : Type} {p : α → Bool} {q : β → Bool} {step kept : List α → β → List α}
    {bs : List β} (h : ∀ done, ∀ b ∈ bs,
      (step done b).filter p = if q b then kept (done.filter p) b else done.filter p)
    (done : List α) : (bs.foldl step done).filter p = (bs.filter q).foldl kept (done.filter p) := by
  induction bs generalizing done with
  | nil => rfl
  | cons b bs ih =>
    have hb := h done b List.mem_cons_self
    rw [List.foldl_cons, ih fun done c hc => h done c (List.mem_cons_of_mem _ hc), hb,
      List.filter_cons]
    split <;> rfl

theorem filter_putEntry {α : Type} (name : String) (entries : List (String × α)) (key : String)
    (value : α) :
    (putEntry (· == ·) entries key value).filter (hasName name) =
      if hasName name (key, value) then
        putEntry (· == ·) (entries.filter (hasName name)) key value
      else entries.filter (hasName name) := by
  have hmap : ∀ entries : List (String × α),
      (entries.map fun entry => if entry.1 == key then (entry.1, value) else entry).filter
        (hasName name) =
      (entries.filter (hasName name)).map fun entry =>
        if entry.1 == key then (entry.1, value) else entry := by
    intro entries
    rw [List.filter_map]
    congr 2
    funext entry
    simp only [Function.comp_apply, hasName]
    split <;> rfl
  by_cases hname : hasName name (key, value) = true
  · have hany : (entries.filter (hasName name)).any (fun entry => entry.1 == key) =
        entries.any fun entry => entry.1 == key := by
      rw [List.any_filter]
      congr 1
      funext entry
      by_cases hkey : entry.1 = key
      · subst hkey
        have hentry : hasName name entry = true := hname
        rw [hentry, Bool.true_and]
      · simp [hkey]
    rw [if_pos hname, putEntry, putEntry, hany]
    split
    · exact hmap entries
    · simp [hname]
  · rw [if_neg hname, putEntry]
    split
    · rw [hmap]
      refine List.map_congr_left (fun entry hentry => if_neg fun hkey => hname ?_) |>.trans
        (List.map_id _)
      rw [← (List.mem_filter.mp hentry).2, hasName, hasName, beq_iff_eq.mp hkey]
    · simp [hname]

theorem lookupFolded_filter (entries : List (String × String)) (name : String) :
    lookupFolded (entries.filter (hasName name)) name = lookupFolded entries name := by
  rw [lookupFolded, lookupFolded, ← List.filter_reverse, List.find?_filter]
  congr 2
  funext entry
  rw [Bool.eq_iff_iff]
  simp [hasName]

theorem filter_assignedValues (name : String) (assignments : List Assignment) :
    (assignedValues assignments).filter (hasName name) =
      assignedValues (assignments.filter (hasName name)) := by
  refine filter_foldl (fun done assignment _ => ?_) []
  obtain ⟨key, value⟩ := assignment
  cases value with
  | some value =>
    rw [List.filter_append]
    cases hname : hasName name (key, some value) with
    | true =>
      have hentry : hasName name (key, value) = true := hname
      simp [hentry]
    | false =>
      have hentry : hasName name (key, value) = false := hname
      simp [hentry]
  | none =>
    dsimp only
    rw [List.filter_filter, List.filter_filter]
    split
    case isTrue => simp only [Bool.and_comm]
    case isFalse hname =>
      refine List.filter_congr fun entry _ => ?_
      cases hentry : hasName name entry with
      | false => rfl
      | true =>
        rw [Bool.true_and, bne_iff_ne]
        intro hkey
        exact hname (by rw [← hentry, hasName, hasName, hkey])

/-- The assignments of lines as they stand, a name in the place where it came first. -/
def plainAssignments (lines : List String) : List Assignment :=
  namedEntries (lines.filterMap fun line => lineAssignment line.toList)

theorem filter_filterMap_lineAssignment (name : String) (lines : List String) :
    (lines.filterMap fun line => lineAssignment line.toList).filter (hasName name) =
      (lines.filter (isAbout name)).filterMap fun line => lineAssignment line.toList := by
  induction lines with
  | nil => rfl
  | cons line lines ih =>
    cases hline : lineAssignment line.toList with
    | none => simp [hline, isAbout, ih]
    | some assignment =>
      cases hname : hasName name assignment <;> simp [hline, hname, isAbout, ih]

/-- The value that the lines about a name give it in the end. -/
def valueOfLines? (name : String) (lines : List String) : Option String :=
  lookupFolded (assignedValues (plainAssignments (lines.filter (isAbout name)))) name

/-- Lines of a file that leave no quote open and do not refer to other names where they are about one. -/
structure ArePlainFor (name : String) (lines : List String) : Prop where
  closed : ∀ line ∈ lines, IsClosedLine line.toList
  plain : ∀ line ∈ lines, ∀ assignment ∈ lineAssignment line.toList,
    hasName name assignment = true → ∀ value ∈ assignment.2, ¬HasReference value

instance (name : String) (lines : List String) : Decidable (ArePlainFor name lines) :=
  decidable_of_iff
    ((∀ line ∈ lines, IsClosedLine line.toList) ∧
      ∀ line ∈ lines, ∀ assignment ∈ lineAssignment line.toList,
        hasName name assignment = true → ∀ value ∈ assignment.2, ¬HasReference value)
    ⟨fun h => ⟨h.1, h.2⟩, fun h => ⟨h.closed, h.plain⟩⟩

/-- What a file says of a name is said by the lines that have the name. -/
theorem lookupFolded_readEnvFile {name : String} {lines : List String} (h : ArePlainFor name lines)
    (environment : List (String × String)) :
    lookupFolded (readEnvFile environment lines) name = valueOfLines? name lines := by
  have hlines : ∀ line ∈ lines.map String.toList, IsClosedLine line := by
    intro line hline
    obtain ⟨text, htext, rfl⟩ := List.mem_map.mp hline
    exact h.closed text htext
  have hnewline : "\n".toList = ['\n'] := by decide
  have hfuel : (['\n'].intercalate (lines.map String.toList)).length ≤
      (String.intercalate "\n" lines).length := by
    rw [← String.length_toList, String.toList_intercalate, hnewline]
  rw [valueOfLines?, ← lookupFolded_filter, readEnvFile, filter_assignedValues,
    String.toList_intercalate, hnewline, readAssignments_intercalate hlines hfuel,
    List.filterMap_map]
  congr 2
  rw [plainAssignments, ← filter_filterMap_lineAssignment]
  refine filter_foldl (fun done assignment hassignment => ?_) []
  obtain ⟨key, value⟩ := assignment
  obtain ⟨line, hline, hread⟩ := List.mem_filterMap.mp hassignment
  cases hname : hasName name (key, value) with
  | false => exact (filter_putEntry name done key _).trans (if_neg (Bool.eq_false_iff.mp hname))
  | true =>
    have hvalue : ∀ earlier, value.map (expand earlier) = value := by
      intro earlier
      cases value with
      | none => rfl
      | some value =>
        exact congrArg some
          (expand_of_not_hasReference _ (h.plain line hline _ hread hname value rfl))
    rw [if_pos rfl]
    dsimp only
    rw [hvalue]
    exact (filter_putEntry name done key value).trans (if_pos hname)

end VectorTable.Setting
