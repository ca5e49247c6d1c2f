import VectorTable.Distance
import VectorTable.Json.Reader
import VectorTable.Schema.Basic
import VectorTable.VectorText

/-!
# Matches

A row that the database returns becomes a match: its identifier as text, a score, the distance if one was computed, the vector, the text, and the metadata. Metadata from the JSON column come first and those with columns of their own after them, so that a column wins over an entry of the same name.
-/

namespace VectorTable

structure Match where
  id : String
  score : Float
  distance : Option Float
  embedding : Option (List Float)
  text : Value
  metadata : List (Value × Value)

namespace Value

/-- The value of a column of a row; nothing if the row lacks the column. -/
def column (row : Value) (name : String) : Except Failure Value :=
  match row with
  | dictionary entries => .ok ((field? entries name).getD null)
  | other => .error (.misfit (.noAttribute other.kind "get"))

def requiredColumn (row : Value) (name : String) : Except Failure Value :=
  match row with
  | dictionary entries =>
    match field? entries name with
    | some value => .ok value
    | none => .error (.misfit (.missingField name))
  | other => .error (.misfit (.notIndexable other.kind))

def isKey : Value → Bool
  | list _ | dictionary _ => false
  | _ => true

/-- Entries with the items of a sequence of pairs put after one another. `position` counts the items before. -/
def putPairs (entries : List (Value × Value)) (position : Nat) :
    List Value → Except Failure (List (Value × Value))
  | [] => .ok entries
  | item :: rest =>
    match item.items with
    | .error _ => .error (.misfit (.entryNotSequence position))
    | .ok [key, value] =>
      if key.isKey then putPairs (putEntry same entries key value) (position + 1) rest
      else .error (.misfit (.notAKey key.kind))
    | .ok other => .error (.misfit (.entryLength position other.length))

def updateEntries (entries : List (Value × Value)) (source : Value) :
    Except Failure (List (Value × Value)) :=
  match source with
  | dictionary others =>
    .ok (others.foldl (fun done other => putEntry same done other.1 other.2) entries)
  | other => do putPairs entries 0 (← other.items)

end Value

namespace Schema

def jsonContent (s : Schema) (row : Value) : Except Failure Value :=
  match s.jsonColumn with
  | none => .ok .null
  | some name => do
    match ← row.column name with
    | .text text => (Json.read text).mapError fun fault => .misfit (.badJson fault)
    | other => return other

/-- Metadata with the values of the metadata columns of a row. Columns with nothing in them are left out. -/
def putColumns (row : Value) (entries : List (Value × Value)) :
    List String → Except Failure (List (Value × Value))
  | [] => .ok entries
  | name :: names => do
    let value ← row.column name
    putColumns row
      (if value.isNull then entries else putEntry Value.same entries (.text name) value)
      names

def rowMetadata (s : Schema) (row : Value) : Except Failure (List (Value × Value)) := do
  let content ← s.jsonContent row
  let entries ← if content.truthy then Value.updateEntries [] content else pure []
  putColumns row entries s.metadataNames

def rowDistance (row : Value) : Except Failure (Option Float) := do
  match ← row.column "distance" with
  | .null => return none
  | value => return some (← value.toFloat)

/-- The score of a row: a given one, or that of its distance. Without a distance it is zero. -/
def rowScore (measure : Distance) (given : Option Float) (distance : Option Float) :
    Except Failure Float :=
  match given, distance with
  | some score, _ => .ok score
  | none, some distance => measure.score distance
  | none, none => .ok 0

def rowToMatch (s : Schema) (measure : Distance) (given : Option Float) (row : Value) :
    Except Failure Match := do
  let metadata ← s.rowMetadata row
  let distance ← rowDistance row
  let score ← rowScore measure given distance
  let id ← row.requiredColumn s.idColumn
  let embedding ← parseVector (← row.column s.embeddingColumn)
  let text ← row.column s.contentColumn
  return { id := id.plain, score, distance, embedding, text, metadata }

end Schema

/-- Whether a score reaches the least score of a request. -/
def reachesScore (minScore : Value) (score : Float) : Except Failure Bool :=
  match minScore.magnitude? with
  | some least => .ok (least.atMost (.ofFloat score))
  | none => .error (.misfit (.incomparable ">=" "float" minScore.kind))

/-- The matches whose scores reach the least score of a request, if it has one. -/
def keepScored (minScore : Value) (found : List Match) : Except Failure (List Match) :=
  if minScore.isNull then .ok found
  else found.filterM fun m => reachesScore minScore m.score

end VectorTable
