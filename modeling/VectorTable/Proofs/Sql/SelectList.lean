import VectorTable.Proofs.Sql.Token

/-!
# The columns of a selection

What a selection gives has one column for each item of its list, which begins after the word `select` and ends with the word `from`. The list is cut at its commas; a comma in brackets belongs to an item, and so does all else in brackets. A column has the name of the column of the table that it is read from, or the name that is given to it with `as`. No two columns of a table have the same name, but the columns of a selection may.
-/

namespace VectorTable.Sql

/-- How many brackets are open after a token. -/
def Token.depthAfter (depth : Nat) : Token → Nat
  | mark '(' => depth + 1
  | mark ')' => depth - 1
  | _ => depth

/-- The items of a list up to the word `from`, the first of which has begun. -/
def cutItems? (depth : Nat) (item : List Token) : List Token → Option (List (List Token))
  | [] => none
  | token :: tokens =>
    if depth = 0 ∧ token = .word "from" then some [item]
    else if depth = 0 ∧ token = .mark ',' then (cutItems? 0 [] tokens).map (item :: ·)
    else cutItems? (token.depthAfter depth) (item ++ [token]) tokens

/-- The items that a statement selects. -/
def selectItems? (statement : String) : Option (List (List Token)) :=
  match lex? statement with
  | some (.word "select" :: tokens) => cutItems? 0 [] tokens
  | _ => none

/-- The name of the column that an item becomes. Other items get names of the database's own. -/
def columnName? (item : List Token) : Option String :=
  match item.reverse with
  | [.name column] => some column
  | .name given :: .word "as" :: _ | .word given :: .word "as" :: _ => some given
  | _ => none

/-- The names of the columns of what a statement selects, in order. -/
def outputNames? (statement : String) : Option (List String) := do
  (← selectItems? statement).mapM columnName?

example : outputNames? "SELECT \"a,b\", f(\"c\", $1) AS c FROM \"t\"" = some ["a,b", "c"] := by decide

/-- A list that begins with names is cut after each of them, if what comes after the last one ends its item. -/
theorem cutItems?_names {rest : List Token} {more : Option (List (List Token))}
    (hrest : ∀ item, cutItems? 0 item rest = more.map (item :: ·)) (name : String)
    (names : List String) :
    cutItems? 0 [] (((name :: names).map Token.name).intersperse (.mark ',') ++ rest) =
      more.map ((name :: names).map (fun name => [.name name]) ++ ·) := by
  have hname : ∀ (name : String) (tokens : List Token),
      cutItems? 0 [] (.name name :: tokens) = cutItems? 0 [.name name] tokens := fun _ _ => rfl
  induction names generalizing name with
  | nil =>
    rw [List.map_singleton, List.intersperse_singleton, List.singleton_append, hname, hrest]
    rfl
  | cons next names ih =>
    have hcomma : ∀ (item tokens : List Token), cutItems? 0 item (.mark ',' :: tokens) =
        (cutItems? 0 [] tokens).map (item :: ·) := fun _ _ => rfl
    have hsplit : ((name :: next :: names).map Token.name).intersperse (.mark ',') =
        .name name :: .mark ',' :: ((next :: names).map Token.name).intersperse (.mark ',') := rfl
    rw [hsplit, List.cons_append, hname, List.cons_append, hcomma, ih, Option.map_map]
    rfl

theorem selectItems?_names {statement : String} {names : List String} {rest : List Token}
    {more : Option (List (List Token))}
    (hlex : lex? statement =
      some (.word "select" :: ((names.map Token.name).intersperse (.mark ',') ++ rest)))
    (hsome : names ≠ []) (hrest : ∀ item, cutItems? 0 item rest = more.map (item :: ·)) :
    selectItems? statement = more.map (names.map (fun name => [.name name]) ++ ·) := by
  obtain ⟨name, names, rfl⟩ := List.exists_cons_of_ne_nil hsome
  rw [selectItems?, hlex]
  exact cutItems?_names hrest name names

theorem mapM_columnName?_names (names : List String) :
    (names.map fun name => [Token.name name]).mapM columnName? = some names := by
  have hone : (columnName? ∘ fun name => [Token.name name]) = pure := rfl
  rw [List.mapM_map, hone, List.mapM_pure]
  exact congrArg some names.map_id

end VectorTable.Sql
