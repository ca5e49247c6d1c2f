import VectorTable.Value.Equality

/-!
# Entries in order

Dictionaries keep the order in which their keys first came. Giving a key again changes its value and not its place.
-/

namespace VectorTable

def putEntry {κ α : Type} (same : κ → κ → Bool) (entries : List (κ × α)) (key : κ) (value : α) :
    List (κ × α) :=
  if entries.any fun entry => same entry.1 key then
    entries.map fun entry => if same entry.1 key then (entry.1, value) else entry
  else entries ++ [(key, value)]

/-- The entries of a list of pairs, each key once. -/
def entriesOf {κ α : Type} (same : κ → κ → Bool) (pairs : List (κ × α)) : List (κ × α) :=
  pairs.foldl (fun entries pair => putEntry same entries pair.1 pair.2) []

/-- Named values, each name once. -/
def namedEntries {α : Type} (pairs : List (String × α)) : List (String × α) :=
  entriesOf (· == ·) pairs

def lookupName {α : Type} (entries : List (String × α)) (name : String) : Option α :=
  (entries.find? fun entry => entry.1 == name).map Prod.snd

namespace Value

/-- A dictionary from pairs, each key once. -/
def dictionaryOf (pairs : List (Value × Value)) : Value := dictionary (entriesOf same pairs)

def field? (entries : List (Value × Value)) (name : String) : Option Value :=
  (entries.find? fun entry => entry.1.same (text name)).map Prod.snd

end Value

end VectorTable
