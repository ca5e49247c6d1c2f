import VectorTable.Proofs.Sql.Items
import VectorTable.Proofs.Sql.Text
import VectorTable.Schema.Resolve

/-!
# Reading the definition of a table

A statement that creates a table is read back as the database reads it: the name of the table, and of each item of its list the quoted name at the front and the type after it. The database tells the types under names of its own; only text and vectors matter here, and of other types it may tell anything. A statement that is put together from complete definitions is read back as exactly these.
-/

namespace VectorTable.Sql

def unquote? : List Char → Option (List Char × List Char)
  | [] => none
  | '"' :: '"' :: cs => (unquote? cs).map fun (read, rest) => ('"' :: read, rest)
  | '"' :: cs => some ([], cs)
  | c :: cs => (unquote? cs).map fun (read, rest) => (c :: read, rest)

def name? : List Char → Option (String × List Char)
  | '"' :: cs => (unquote? cs).map fun (read, rest) => (String.ofList read, rest)
  | _ => none

def constraintWords : List String :=
  ["null", "not", "primary", "default", "check", "unique", "references", "generated", "collate",
    "constraint"]

def Token.isConstraint : Token → Bool
  | word text => constraintWords.contains text
  | _ => false

def typeTokens (definition : List Token) : List Token :=
  definition.takeWhile fun token => !token.isConstraint

/-- What the database tells of the type in a column definition. Of types that matter to nobody it may tell anything. -/
def reportedType (other : String → String) (definition : String) : Value :=
  match (lex? definition).map typeTokens with
  | some [.word "text"] => .text "text"
  | some [.word "vector", .mark '(', .number _, .mark ')'] => .text "USER-DEFINED"
  | _ => .text (other definition)

def column? (other : String → String) (item : List Char) : Option (String × Value) :=
  (name? (item.dropWhile isSpace)).map fun (name, definition) =>
    (name, reportedType other (String.ofList definition))

structure Table where
  schema : String
  name : String
  columns : TableColumns

/-- The table that a statement creates. No two columns of it may have the same name. -/
def createdTable? (other : String → String) (statement : String) : Option Table := do
  let rest ← statement.toList.dropPrefix? "CREATE TABLE ".toList
  let (schema, rest) ← name? rest
  let rest ← rest.dropPrefix? ['.']
  let (table, rest) ← name? rest
  let rest ← rest.dropPrefix? [' ', '(']
  let columns ← (← items? .start [] rest).mapM (column? other)
  if (columns.map Prod.fst).Nodup then some ⟨schema, table, columns⟩ else none

/-! ### The statement as it is written -/

theorem unquote?_flatMap_quoteChar (cs : List Char) {c : Char} (hc : c ≠ '"') (rest : List Char) :
    unquote? (cs.flatMap quoteChar ++ '"' :: c :: rest) = some (cs, c :: rest) := by
  induction cs with
  | nil => simp [unquote?, hc]
  | cons d cs ih =>
    by_cases hd : d = '"'
    · rw [hd]
      simp [quoteChar, unquote?, ih]
    · simp [quoteChar, hd, unquote?, ih]

theorem name?_quoteName (identifier : String) {c : Char} (hc : c ≠ '"') (rest : List Char) :
    name? ((quoteName identifier).toList ++ c :: rest) = some (identifier, c :: rest) := by
  simp [quoteName, name?, unquote?_flatMap_quoteChar _ hc]

/-- A column definition as it is written: a name, and a complete text after it. -/
def definition (column : String × String) : List Piece := [.name column.1, .raw (" " ++ column.2)]

theorem chars_definition (column : String × String) :
    chars (definition column) = (quoteName column.1).toList ++ ' ' :: column.2.toList := by
  simp [chars, definition, Piece.text]

theorem isComplete_definition (column : String × String) :
    isComplete (chars (definition column)) = isComplete column.2.toList := by
  rw [chars_definition, isComplete, Place.readAll?_append, readAll?_quoteName]
  rfl

theorem column?_definition (other : String → String) (column : String × String) :
    column? other (chars (definition column)) =
      some (column.1, reportedType other (" " ++ column.2)) := by
  have hquote : ((quoteName column.1).toList ++ ' ' :: column.2.toList).dropWhile isSpace =
      (quoteName column.1).toList ++ ' ' :: column.2.toList := by
    simp [quoteName, isSpace]
  rw [column?, chars_definition, hquote, name?_quoteName column.1 (by decide)]
  simp

theorem column?_space (other : String → String) (item : List Char) :
    column? other (' ' :: item) = column? other item := rfl

theorem mapM_column? (other : String → String) (first : String × String)
    (columns : List (String × String)) :
    (chars (definition first) :: (columns.map definition).map fun g => ' ' :: chars g).mapM
        (column? other) =
      some ((first :: columns).map fun column => (column.1, reportedType other (" " ++ column.2))) := by
  have hrest : ((columns.map definition).map fun g => ' ' :: chars g).mapM (column? other) =
      some (columns.map fun column => (column.1, reportedType other (" " ++ column.2))) := by
    rw [List.map_map, List.mapM_map]
    simp only [Function.comp_def, column?_space, column?_definition]
    exact List.mapM_pure
  rw [List.mapM_cons, column?_definition, hrest]
  rfl

/-- What stands before the list is fixed but for two names; each part is taken off by its end. -/
theorem createdTable?_front (other : String → String) (schema table : String) (list : List Piece) :
    createdTable? other (render ([.raw "CREATE TABLE ", .name schema, .raw ".", .name table,
        .raw " ("] ++ list)) =
      ((items? .start [] (chars list)).bind fun items => items.mapM (column? other)).bind fun columns =>
        if (columns.map Prod.fst).Nodup then some ⟨schema, table, columns⟩ else none := by
  have hfront : ∀ front rest : List Char, (front ++ rest).dropPrefix? front = some rest :=
    fun front rest => List.dropPrefix?_eq_some_iff.mpr ⟨front, rfl, beq_self_eq_true front⟩
  have hdot : ∀ rest, ('.' :: rest).dropPrefix? ['.'] = some rest := hfront ['.']
  have hopen : ∀ rest, (' ' :: '(' :: rest).dropPrefix? [' ', '('] = some rest := hfront [' ', '(']
  have htext : (render ([.raw "CREATE TABLE ", .name schema, .raw ".", .name table,
        .raw " ("] ++ list)).toList =
      "CREATE TABLE ".toList ++ ((quoteName schema).toList ++ '.' ::
        ((quoteName table).toList ++ ' ' :: '(' :: chars list)) := by
    simp [toList_render, chars, Piece.text]
  rw [createdTable?, htext]
  simp only [hfront, hdot, hopen, name?_quoteName _ (show '.' ≠ '"' by decide),
    name?_quoteName _ (show ' ' ≠ '"' by decide), Option.bind_eq_bind, Option.bind_some,
    Option.bind_assoc]

theorem prefix_of_createdTable? {other : String → String} {statement : String} {table : Table}
    (h : createdTable? other statement = some table) :
    "CREATE TABLE ".toList <+: statement.toList := by
  obtain ⟨rest, hrest, -⟩ := Option.bind_eq_some_iff.mp h
  obtain ⟨front, heq, hfront⟩ := List.dropPrefix?_eq_some_iff.mp hrest
  rw [heq, eq_of_beq hfront]
  exact List.prefix_append _ _

theorem createdTable?_render (other : String → String) (schema table : String)
    {columns : List (String × String)} (hsome : columns ≠ [])
    (hcomplete : ∀ column ∈ columns, isComplete column.2.toList = true)
    (hnodup : (columns.map Prod.fst).Nodup) :
    createdTable? other (render ([.raw "CREATE TABLE ", .name schema, .raw ".", .name table,
        .raw " ("] ++ separated ", " (columns.map definition) ++ [.raw ")"])) =
      some ⟨schema, table,
        columns.map fun column => (column.1, reportedType other (" " ++ column.2))⟩ := by
  obtain ⟨first, columns, rfl⟩ := List.exists_cons_of_ne_nil hsome
  have hgroups : ∀ group ∈ definition first :: columns.map definition,
      isComplete (chars group) = true := by
    intro group hgroup
    obtain ⟨column, hcolumn, rfl⟩ := List.mem_map.mp (List.map_cons ▸ hgroup)
    rw [isComplete_definition, hcomplete column hcolumn]
  have hitems := items?_separated (definition first) (columns.map definition) hgroups []
  have hlist : chars (separated ", " ((first :: columns).map definition) ++ [.raw ")"]) =
      chars (separated ", " (definition first :: columns.map definition)) ++ [')'] := by
    simp [chars, Piece.text]
  have hnames : (((first :: columns).map fun column =>
      (column.1, reportedType other (" " ++ column.2))).map Prod.fst).Nodup := by
    rw [List.map_map]
    exact hnodup
  rw [List.append_assoc, createdTable?_front, hlist, hitems, List.nil_append, Option.bind_some,
    mapM_column?, Option.bind_some, if_pos hnames]

/-- The columns of a statement that begins with complete definitions, whatever comes after them. -/
theorem exists_columns_of_createdTable? {other : String → String} {schema name : String}
    {first : String × String} {columns : List (String × String)}
    (hcomplete : ∀ column ∈ first :: columns, isComplete column.2.toList = true)
    {others : List (List Piece)} {table : Table}
    (h : createdTable? other (render ([.raw "CREATE TABLE ", .name schema, .raw ".", .name name,
        .raw " ("] ++ separated ", " ((first :: columns).map definition ++ others) ++ [.raw ")"])) =
      some table) :
    table.schema = schema ∧ table.name = name ∧ (table.columns.map Prod.fst).Nodup ∧
      ∃ more, table.columns = (first :: columns).map (fun column =>
        (column.1, reportedType other (" " ++ column.2))) ++ more := by
  have hgroups : ∀ group ∈ definition first :: columns.map definition,
      isComplete (chars group) = true := by
    intro group hgroup
    obtain ⟨column, hcolumn, rfl⟩ := List.mem_map.mp (List.map_cons ▸ hgroup)
    rw [isComplete_definition, hcomplete column hcolumn]
  have hlist : chars (separated ", " ((first :: columns).map definition ++ others) ++ [.raw ")"]) =
      chars (separated ", " (definition first :: columns.map definition ++ others)) ++ [')'] := by
    simp [chars, Piece.text]
  rw [List.append_assoc, createdTable?_front, hlist] at h
  obtain ⟨read, hread, h⟩ := Option.bind_eq_some_iff.mp h
  obtain ⟨items, hitems, hread⟩ := Option.bind_eq_some_iff.mp hread
  obtain ⟨more, rfl⟩ := exists_items?_separated hgroups others hitems
  split at h
  case isFalse => cases h
  case isTrue hnodup =>
    cases h
    refine ⟨rfl, rfl, hnodup, ?_⟩
    rw [List.nil_append, List.mapM_append, mapM_column?] at hread
    obtain ⟨rest, -, hread⟩ := Option.bind_eq_some_iff.mp
      (show ((more.mapM (column? other)).bind fun rest => some (_ ++ rest)) = some read from hread)
    exact ⟨rest, (Option.some.inj hread).symm⟩

/-! ### The types that matter -/

theorem isComplete_vector (n : Nat) :
    isComplete ("vector(" ++ toString n ++ ") NOT NULL").toList = true := by
  have hdigits : ∀ cs : List Char, (∀ c ∈ cs, c.isDigit = true) →
      Place.readAll? ⟨.plain, 1⟩ cs = some ⟨.plain, 1⟩ := by
    intro cs hcs
    induction cs with
    | nil => rfl
    | cons c cs ih =>
      have hall : "0123456789".toList.all
          (fun c => Place.next? ⟨.plain, 1⟩ c == some ⟨.plain, 1⟩) = true := by decide
      have hc := beq_iff_eq.mp (of_isDigit hall (hcs c List.mem_cons_self))
      rw [Place.readAll?_cons, hc, Option.bind_some, ih fun d hd => hcs d (List.mem_cons_of_mem c hd)]
  have hopen : Place.start.readAll? "vector(".toList = some ⟨.plain, 1⟩ := by decide
  have hclose : (Place.readAll? ⟨.plain, 1⟩ ") NOT NULL".toList).any Place.isOuter = true := by decide
  have hnumber := hdigits (Nat.toDigits 10 n) fun c hc =>
    Nat.isDigit_of_mem_toDigits (by decide) (by decide) hc
  have htext : (toString n).toList = Nat.toDigits 10 n := Nat.toList_repr
  rw [isComplete, String.toList_append, String.toList_append, Place.readAll?_append,
    Place.readAll?_append, hopen, Option.bind_some, htext, hnumber, Option.bind_some, hclose]

theorem lex?_vector (n : Nat) :
    lex? (" " ++ ("vector(" ++ toString n ++ ") NOT NULL")) =
      some [.word "vector", .mark '(', .number n, .mark ')', .word "not", .word "null"] := by
  have hnumber : lex? (toString n) = some [.number n] := by
    have htext : (toString n).toList = Nat.toDigits 10 n := Nat.toList_repr
    rw [lex?, htext, Reading.readAll?_number]
    rfl
  have hlegible : Legible [.raw " vector(", .raw (toString n), .raw ") NOT NULL"] := by
    have hread : (Piece.raw (toString n)).readable = true := by
      rw [Piece.readable, hnumber]
      rfl
    exact ((legible_singleton hread).cons (by decide)).concat (by decide)
  have hopen : (Piece.raw " vector(").tokens = [.word "vector", .mark '('] := by decide
  have hclose : (Piece.raw ") NOT NULL").tokens = [.mark ')', .word "not", .word "null"] := by decide
  have hmiddle : (Piece.raw (toString n)).tokens = [.number n] := by
    rw [Piece.tokens, hnumber]
    rfl
  have htext : render [.raw " vector(", .raw (toString n), .raw ") NOT NULL"] =
      " " ++ ("vector(" ++ toString n ++ ") NOT NULL") := by
    rw [← String.toList_inj]
    simp
  rw [← htext, lex?_render hlegible]
  simp only [List.flatMap_cons, List.flatMap_nil, hopen, hclose, hmiddle]
  rfl

theorem reportedType_text (other : String → String) : reportedType other (" " ++ "TEXT NULL") = .text "text" := by
  have hlex : (lex? (" " ++ "TEXT NULL")).map typeTokens = some [.word "text"] := by decide
  rw [reportedType, hlex]
  rfl

theorem reportedType_vector (other : String → String) (n : Nat) :
    reportedType other (" " ++ ("vector(" ++ toString n ++ ") NOT NULL")) = .text "USER-DEFINED" := by
  have hlex : (lex? (" " ++ ("vector(" ++ toString n ++ ") NOT NULL"))).map typeTokens =
      some [.word "vector", .mark '(', .number n, .mark ')'] := by
    rw [lex?_vector]
    rfl
  rw [reportedType, hlex]
  rfl

end VectorTable.Sql
