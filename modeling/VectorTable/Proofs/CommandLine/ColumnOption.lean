import VectorTable.CommandLine.Command
import VectorTable.Proofs.Failure.Steps
import VectorTable.Proofs.Vector.Text

/-!
# Metadata columns on a command line

A metadata column is asked for by its name and its type with a colon between them, and by the word `notnull` after one more colon if it takes no nulls. Every text of that form is read as it says. Other texts with a name and a type are read as well: what follows the type is passed over unless its first part is the word, so a misspelt word gives a column that takes nulls.
-/

namespace VectorTable

theorem TypedColumn.declare_eq_ok_iff {name dataType : String} {nullable : Bool}
    {column : TypedColumn} : TypedColumn.declare name dataType nullable = .ok column ↔
      column.name = name ∧ column.dataType = dataType ∧ column.nullable = nullable := by
  constructor
  · intro h
    rw [TypedColumn.declare] at h
    split at h
    · split at h <;> cases h
      exact ⟨rfl, rfl, rfl⟩
    · cases h
  · rintro ⟨rfl, rfl, rfl⟩
    rw [TypedColumn.declare, dif_pos column.nameNotBlank, dif_pos column.dataTypeNotBlank]

namespace CommandLine

/-- A word that is `notnull`, in any letter case. -/
def IsNotNull (word : String) : Prop := word.toList.map Char.toLower = "notnull".toList

instance (word : String) : Decidable (IsNotNull word) := inferInstanceAs (Decidable (_ = _))

/-- A text that asks for a column in the form that is documented. -/
inductive Describes : String → TypedColumn → Prop
  | nullable (column : TypedColumn) (hname : ':' ∉ column.name.toList)
      (htype : ':' ∉ column.dataType.toList) (hnulls : column.nullable = true) :
      Describes (column.name ++ ":" ++ column.dataType) column
  | notNull (column : TypedColumn) (hname : ':' ∉ column.name.toList)
      (htype : ':' ∉ column.dataType.toList) (word : String) (hword : IsNotNull word)
      (hnulls : column.nullable = false) :
      Describes (column.name ++ ":" ++ column.dataType ++ ":" ++ word) column

/-- A text that asks for a column and goes on with something else than the word for its nulls. The column takes nulls unless what it goes on with begins with the word and one more colon. -/
inductive Exceeds : String → TypedColumn → Prop
  | rest (column : TypedColumn) (hname : ':' ∉ column.name.toList)
      (htype : ':' ∉ column.dataType.toList) (rest : String) (hrest : ¬IsNotNull rest)
      (hnulls : column.nullable = false ↔
        ∃ word more, IsNotNull word ∧ rest = word ++ ":" ++ more) :
      Exceeds (column.name ++ ":" ++ column.dataType ++ ":" ++ rest) column

/-! ### The word for nulls -/

theorem lowerAsciiChar_eq_iff {c letter : Char} (hletter : letter ∈ "notnull".toList) :
    Text.lowerAsciiChar c = letter ↔ c.toLower = letter := by
  rw [Text.lowerAsciiChar]
  split
  case isFalse => rfl
  case isTrue hkelvin =>
    -- The sign for Kelvin is a letter outside the word either way.
    have hc : c = '\u212a' := Char.ext (UInt32.toNat_inj.mp hkelvin)
    have hlower : 'k' ∉ "notnull".toList := by decide
    have hsign : c.toLower ∉ "notnull".toList := by
      rw [hc]
      decide
    exact iff_of_false (fun heq => hlower (heq ▸ hletter)) fun heq => hsign (heq ▸ hletter)

theorem map_lowerAsciiChar_eq_iff {letters : List Char} (hletters : letters ⊆ "notnull".toList)
    (cs : List Char) : cs.map Text.lowerAsciiChar = letters ↔ cs.map Char.toLower = letters := by
  induction letters generalizing cs with
  | nil => simp
  | cons letter letters ih =>
    obtain ⟨hletter, hletters⟩ := List.cons_subset.mp hletters
    cases cs with
    | nil => simp
    | cons c cs =>
      rw [List.map_cons, List.map_cons, List.cons.injEq, List.cons.injEq,
        lowerAsciiChar_eq_iff hletter, ih hletters]

theorem lowerAscii_eq_iff {word : String} : Text.lowerAscii word = "notnull" ↔ IsNotNull word := by
  rw [← String.toList_inj, Text.lowerAscii, String.toList_ofList,
    map_lowerAsciiChar_eq_iff (List.Subset.refl _), IsNotNull]

theorem IsNotNull.notMem {word : String} (h : IsNotNull word) : ':' ∉ word.toList := by
  intro hmem
  have hcolon : ':' ∈ word.toList.map Char.toLower := List.mem_map.mpr ⟨':', hmem, rfl⟩
  rw [h] at hcolon
  exact absurd hcolon (by decide)

/-! ### The parts of a text -/

/-- Whether what follows a type begins with the word for nulls. -/
def ForbidsNulls (rest : List (List Char)) : Prop := ∃ word ∈ rest.head?, IsNotNull (.ofList word)

theorem forbidsNulls_splitAt_iff {rest : String} :
    ForbidsNulls (splitAt ':' rest.toList) ↔
      IsNotNull rest ∨ ∃ word more, IsNotNull word ∧ rest = word ++ ":" ++ more := by
  constructor
  · rintro ⟨word, hword, hnotNull⟩
    obtain ⟨parts, hparts⟩ := List.head?_eq_some_iff.mp hword
    obtain ⟨-, ⟨-, hrest⟩ | ⟨more, hrest, -⟩⟩ := splitAt_eq_cons_iff.mp hparts
    · rw [← hrest, String.ofList_toList] at hnotNull
      exact .inl hnotNull
    · refine .inr ⟨.ofList word, .ofList more, hnotNull, String.toList_inj.mp ?_⟩
      simp [hrest]
  · rintro (hrest | ⟨word, more, hword, rfl⟩)
    · rw [splitAt_of_notMem hrest.notMem]
      exact ⟨rest.toList, rfl, by rwa [String.ofList_toList]⟩
    · have hparts : splitAt ':' (word ++ ":" ++ more).toList =
          word.toList :: splitAt ':' more.toList := by
        rw [← splitAt_append hword.notMem]
        simp
      rw [hparts]
      exact ⟨word.toList, rfl, by rwa [String.ofList_toList]⟩

theorem splitAt_eq_column_iff {text name dataType : String} {rest : List (List Char)} :
    splitAt ':' text.toList = name.toList :: dataType.toList :: rest ↔
      ':' ∉ name.toList ∧ ':' ∉ dataType.toList ∧
        (text = name ++ ":" ++ dataType ∧ rest = [] ∨
          ∃ more : String, text = name ++ ":" ++ dataType ++ ":" ++ more ∧
            rest = splitAt ':' more.toList) := by
  rw [splitAt_eq_cons_iff]
  constructor
  · rintro ⟨hname, ⟨hnone, -⟩ | ⟨afterName, htext, hparts⟩⟩
    · cases hnone
    · obtain ⟨htype, ⟨hnone, hafter⟩ | ⟨more, hafter, hrest⟩⟩ := splitAt_eq_cons_iff.mp hparts.symm
      · refine ⟨hname, htype, .inl ⟨String.toList_inj.mp ?_, hnone⟩⟩
        simp [htext, hafter]
      · refine ⟨hname, htype, .inr ⟨.ofList more, String.toList_inj.mp ?_, ?_⟩⟩
        · simp [htext, hafter]
        · rw [hrest, String.toList_ofList]
  · rintro ⟨hname, htype, ⟨rfl, rfl⟩ | ⟨more, rfl, rfl⟩⟩
    · refine ⟨hname, .inr ⟨dataType.toList, by simp, ?_⟩⟩
      rw [splitAt_of_notMem htype]
    · refine ⟨hname, .inr ⟨dataType.toList ++ ':' :: more.toList, by simp, ?_⟩⟩
      rw [splitAt_append htype]

/-! ### Reading -/

theorem isEmpty_eq_false {name : String} (h : Text.isBlankText name = false) :
    name.isEmpty = false := by
  rw [Bool.eq_false_iff]
  intro hempty
  rw [String.isEmpty_iff.mp hempty] at h
  cases h

theorem nullable_eq_iff {rest : List (List Char)} {nullable : Bool} :
    nullable = ((rest.map String.ofList).head?.map Text.lowerAscii != some "notnull") ↔
      (nullable = false ↔ ForbidsNulls rest) := by
  have hrest : ((rest.map String.ofList).head?.map Text.lowerAscii != some "notnull") = false ↔
      ForbidsNulls rest := by
    rw [bne_eq_false_iff_eq]
    cases rest with
    | nil => simp [ForbidsNulls]
    | cons word rest => simp [ForbidsNulls, lowerAscii_eq_iff]
  rw [← hrest]
  cases nullable <;> simp

theorem readColumn_eq_ok_iff_splitAt {text : String} {column : MetadataColumn} :
    readColumn text = .ok column ↔ ∃ c rest, column = .typed c ∧
      splitAt ':' text.toList = c.name.toList :: c.dataType.toList :: rest ∧
      (c.nullable = false ↔ ForbidsNulls rest) := by
  rw [readColumn]
  match splitAt ':' text.toList with
  | [] | [_] => simp
  | name :: dataType :: rest =>
    constructor
    · intro h
      simp only [List.map_cons] at h
      split at h
      · cases h
      · split at h
        case h_1 c hc =>
          cases h
          obtain ⟨hname, htype, hnulls⟩ := TypedColumn.declare_eq_ok_iff.mp hc
          refine ⟨c, rest, rfl, ?_, nullable_eq_iff.mp hnulls⟩
          rw [hname, htype, String.toList_ofList, String.toList_ofList]
        case h_2 => cases h
    · rintro ⟨c, others, rfl, hparts, hnulls⟩
      obtain ⟨rfl, rfl, rfl⟩ : name = c.name.toList ∧ dataType = c.dataType.toList ∧
          rest = others := by simpa using hparts
      have hdeclared :=
        TypedColumn.declare_eq_ok_iff.mpr ⟨rfl, rfl, nullable_eq_iff.mpr hnulls⟩
      have hnone : (c.name.isEmpty || c.dataType.isEmpty) = false := by
        rw [isEmpty_eq_false c.nameNotBlank, isEmpty_eq_false c.dataTypeNotBlank]
        rfl
      simp only [List.map_cons, String.ofList_toList]
      rw [if_neg (by rw [hnone]; exact Bool.false_ne_true), hdeclared]

/-- A text is read if it is in the documented form, or goes on after the type of its column. -/
theorem readColumn_eq_ok_iff {text : String} {column : MetadataColumn} :
    readColumn text = .ok column ↔
      ∃ c, column = .typed c ∧ (Describes text c ∨ Exceeds text c) := by
  rw [readColumn_eq_ok_iff_splitAt]
  constructor
  · rintro ⟨c, rest, rfl, hparts, hnulls⟩
    refine ⟨c, rfl, ?_⟩
    obtain ⟨hname, htype, ⟨rfl, rfl⟩ | ⟨more, rfl, rfl⟩⟩ := splitAt_eq_column_iff.mp hparts
    · refine .inl (.nullable c hname htype ?_)
      rw [← Bool.not_eq_false, hnulls]
      rintro ⟨_, hword, -⟩
      cases hword
    · rw [forbidsNulls_splitAt_iff] at hnulls
      by_cases hmore : IsNotNull more
      · exact .inl (.notNull c hname htype more hmore (hnulls.mpr (.inl hmore)))
      · exact .inr (.rest c hname htype more hmore (hnulls.trans (or_iff_right hmore)))
  · rintro ⟨c, rfl, hdescribes | hexceeds⟩
    · cases hdescribes with
      | nullable _ hname htype hnulls =>
        refine ⟨c, [], rfl, splitAt_eq_column_iff.mpr ⟨hname, htype, .inl ⟨rfl, rfl⟩⟩, ?_⟩
        simp [hnulls, ForbidsNulls]
      | notNull _ hname htype word hword hnulls =>
        exact ⟨c, _, rfl, splitAt_eq_column_iff.mpr ⟨hname, htype, .inr ⟨word, rfl, rfl⟩⟩,
          iff_of_true hnulls (forbidsNulls_splitAt_iff.mpr (.inl hword))⟩
    · obtain ⟨_, hname, htype, rest, hrest, hnulls⟩ := hexceeds
      exact ⟨c, _, rfl, splitAt_eq_column_iff.mpr ⟨hname, htype, .inr ⟨rest, rfl, rfl⟩⟩,
        hnulls.trans ((or_iff_right hrest).symm.trans forbidsNulls_splitAt_iff.symm)⟩

/-- No text of the documented form goes on after it. -/
theorem Describes.not_exceeds {text : String} {c d : TypedColumn} (h : Describes text c) :
    ¬Exceeds text d := by
  intro hexceeds
  have hc := readColumn_eq_ok_iff.mpr ⟨c, rfl, .inl h⟩
  have hd := readColumn_eq_ok_iff.mpr ⟨d, rfl, .inr hexceeds⟩
  obtain rfl : c = d := MetadataColumn.typed.inj (Except.ok.inj (hc.symm.trans hd))
  -- Both forms begin with the name and the type, so they agree on what follows.
  generalize htext : text = other at hexceeds
  cases hexceeds with
  | rest _ _ _ rest hrest _ =>
    cases h with
    | nullable =>
      have hlists := congrArg String.toList htext
      simp at hlists
    | notNull _ _ _ word hword =>
      have hlists := congrArg String.toList htext
      simp only [String.toList_append, List.append_assoc, List.append_cancel_left_eq] at hlists
      exact hrest (String.toList_inj.mp hlists ▸ hword)

theorem exists_typed_iff {text : String} {column : MetadataColumn} :
    (∃ c, column = .typed c ∧ Describes text c) ↔ (∀ d, ¬Exceeds text d) ∧
      ∃ c, column = .typed c ∧ (Describes text c ∨ Exceeds text c) := by
  constructor
  · rintro ⟨c, rfl, h⟩
    exact ⟨fun _ => h.not_exceeds, c, rfl, .inl h⟩
  · rintro ⟨hnone, c, rfl, h⟩
    exact ⟨c, rfl, h.resolve_right (hnone c)⟩

/-- Exactly the texts with a name and a type are read, each as its own column and in order. They are in the documented form, and read as it says, if none of them goes on after it. -/
theorem mapM_readColumn (values : List String) (columns : List MetadataColumn) :
    (values.mapM readColumn = .ok columns ↔
      List.Forall₂ (fun text column => ∃ c, column = .typed c ∧
        (Describes text c ∨ Exceeds text c)) values columns) ∧
    (List.Forall₂ (fun text column => ∃ c, column = .typed c ∧ Describes text c) values columns ↔
      (∀ text ∈ values, ∀ c, ¬Exceeds text c) ∧ values.mapM readColumn = .ok columns) := by
  have hread : values.mapM readColumn = .ok columns ↔
      List.Forall₂ (fun text column => ∃ c, column = .typed c ∧
        (Describes text c ∨ Exceeds text c)) values columns := by
    simp only [mapM_eq_ok_iff, readColumn_eq_ok_iff]
  refine ⟨hread, ?_⟩
  rw [hread, ← List.forall₂_and_left]
  simp only [exists_typed_iff]

/-- The word for nulls counts in any letter case, and its absence lets the column take nulls. -/
theorem mapM_readColumn_pages :
    let page : TypedColumn := ⟨"page", "INT", false, by decide, by decide⟩
    let source : TypedColumn := ⟨"source", "TEXT", true, by decide, by decide⟩
    Describes "page:INT:NotNull" page ∧ Describes "source:TEXT" source ∧
      ["page:INT:NotNull", "source:TEXT"].mapM readColumn = .ok [.typed page, .typed source] := by
  intro page source
  have hpage : Describes "page:INT:NotNull" page :=
    .notNull page (by decide) (by decide) "NotNull" (by decide) rfl
  have hsource : Describes "source:TEXT" source := .nullable source (by decide) (by decide) rfl
  have hall := (mapM_readColumn _ _).2.mp
    (.cons ⟨page, rfl, hpage⟩ (.cons ⟨source, rfl, hsource⟩ .nil))
  exact ⟨hpage, hsource, hall.2⟩

/-- A misspelt word is passed over, and the column takes nulls. -/
theorem not_describes_misspelt :
    let page : TypedColumn := ⟨"page", "INT", true, by decide, by decide⟩
    ["page:INT:notnul"].mapM readColumn = .ok [.typed page] ∧
      ∀ c, ¬Describes "page:INT:notnul" c := by
  intro page
  have hexceeds : Exceeds "page:INT:notnul" page := by
    refine .rest page (by decide) (by decide) "notnul" (by decide) (iff_of_false (by decide) ?_)
    rintro ⟨word, more, -, hrest⟩
    have hcolon : ':' ∈ (word ++ ":" ++ more).toList := by simp
    rw [← hrest] at hcolon
    exact absurd hcolon (by decide)
  have hread := readColumn_eq_ok_iff.mpr ⟨page, rfl, .inr hexceeds⟩
  exact ⟨mapM_eq_ok_iff.mpr (.cons hread .nil),
    fun _ hdescribes => hdescribes.not_exceeds hexceeds⟩

end CommandLine

end VectorTable
