import VectorTable.CommandLine.Words
import VectorTable.Schema.Basic
import VectorTable.VectorIndex
import VectorTable.VectorText

/-!
# Commands

The commands, and how each is read from the words that follow its name. A command that has been read knows everything it needs: the names of the table and its columns, and what is to be done.
-/

namespace VectorTable.CommandLine

inductive CommandName
  | initTable
  | createIndex
  | dropIndex
  | remove
  | health
deriving DecidableEq, Repr

namespace CommandName

def all : List CommandName := [initTable, createIndex, dropIndex, remove, health]

def word : CommandName → String
  | initTable => "init-table"
  | createIndex => "create-index"
  | dropIndex => "drop-index"
  | remove => "remove"
  | health => "health"

def ofWord? (word : String) : Option CommandName := all.find? fun name => name.word == word

end CommandName

/-- Whether the methods of indexes are called by these words, each with its usual parameters. -/
def indexMethods : List (String × IndexMethod) :=
  [("hnsw", .hnsw ⟨16, by decide⟩ ⟨64, by decide⟩), ("ivfflat", .ivfFlat ⟨100, by decide⟩),
    ("ivf", .ivf ⟨100, by decide⟩ .sq8), ("scann", .scann ⟨5, by decide⟩ .sq8)]

def distanceWords : List (String × Distance) :=
  [("cosine", .cosine), ("euclidean", .euclidean), ("inner_product", .innerProduct)]

inductive Command
  | initTable (schema : Schema) (size : Int) (overwrite storeMetadata : Bool)
  | createIndex (table : Draft) (methodWord : String) (index : IndexDefinition)
      (name : Option String) (concurrently : Bool)
  | dropIndex (table : Draft) (name : Option String)
  | remove (table : Draft) (ids : List String)
  | health

def helpRule : OptionRule := .flag "--help"

def columnRules : List OptionRule :=
  [.text "--schema", .text "--id-column", .text "--content-column", .text "--embedding-column"]

def CommandName.rules : CommandName → WordRules
  | initTable =>
    { options := [⟨"--vector-size", .whole, true⟩] ++ columnRules
        ++ [.text "--metadata-column", .text "--json-column", .flag "--no-json",
          .flag "--overwrite", helpRule]
      arguments := ["TABLE"]
      repeated := false }
  | createIndex =>
    { options := columnRules
        ++ [⟨"--type", .choice (indexMethods.map Prod.fst), false⟩,
          ⟨"--distance", .choice (distanceWords.map Prod.fst), false⟩, .text "--name",
          .flag "--concurrently", helpRule]
      arguments := ["TABLE"]
      repeated := false }
  | dropIndex =>
    { options := columnRules ++ [.text "--name", helpRule]
      arguments := ["TABLE"]
      repeated := false }
  | remove =>
    { options := columnRules ++ [helpRule]
      arguments := ["TABLE", "IDS..."]
      repeated := true }
  | health => { options := [helpRule], arguments := [], repeated := false }

def programName : String := "main"

def CommandName.usage (name : CommandName) : Usage :=
  ⟨programName ++ " " ++ name.word, String.intercalate " " ("[OPTIONS]" :: name.rules.arguments)⟩

/-- A metadata column written as its name, its type and perhaps the word that it takes no nulls, with colons between them. -/
def readColumn (text : String) : Except UsageFault MetadataColumn :=
  match (splitAt ':' text.toList).map String.ofList with
  | name :: dataType :: rest =>
    if name.isEmpty || dataType.isEmpty then .error (.notAColumn "--metadata-column" text)
    else
      let nullable := rest.head?.map Text.lowerAscii != some "notnull"
      match TypedColumn.declare name dataType nullable with
      | .ok column => .ok (.typed column)
      | .error cause => .error (.refused cause)
  | _ => .error (.notAColumn "--metadata-column" text)

def readTable (words : Words) : Draft :=
  let plain := Draft.ofTable (words.arguments.head?.getD "")
  { plain with
    schema := words.valueOr "--schema" plain.schema
    idColumn := words.valueOr "--id-column" plain.idColumn
    contentColumn := words.valueOr "--content-column" plain.contentColumn
    embeddingColumn := words.valueOr "--embedding-column" plain.embeddingColumn }

def readInitTable (words : Words) : Except UsageFault Command := do
  let columns ← (words.values "--metadata-column").mapM readColumn
  let json := words.valueOr "--json-column" "langchain_metadata"
  let draft :=
    { readTable words with
      metadataColumns := columns
      jsonColumn := if words.has "--no-json" then none else some json }
  let size := ((words.value? "--vector-size").bind Decimal.readInt?).getD 0
  match Schema.ofDraft draft with
  | .ok schema => return .initTable schema size (words.has "--overwrite") (!words.has "--no-json")
  | .error cause => throw (.refused cause)

def readCreateIndex (words : Words) : Command :=
  let methodWord := words.valueOr "--type" "hnsw"
  let method := (lookupName indexMethods methodWord).getD (.hnsw ⟨16, by decide⟩ ⟨64, by decide⟩)
  let distance := (lookupName distanceWords (words.valueOr "--distance" "cosine")).getD .cosine
  .createIndex (readTable words) methodWord (.ofMethod method distance) (words.value? "--name")
    (words.has "--concurrently")

def CommandName.ofWords (name : CommandName) (words : Words) : Except UsageFault Command :=
  match name with
  | initTable => readInitTable words
  | createIndex => .ok (readCreateIndex words)
  | dropIndex => .ok (.dropIndex (readTable words) (words.value? "--name"))
  | remove => .ok (.remove (readTable words) words.arguments.tail)
  | health => .ok .health

/-- Why a command line is not run: help was asked for, nothing was asked for, or something is wrong with it. -/
inductive Halt
  | help (usage : Usage)
  | nothing (usage : Usage)
  | misused (usage : Usage) (fault : UsageFault)

def Halt.lines : Halt → List String
  | help usage | nothing usage => [usage.line]
  | misused usage fault => usage.report fault

/-- The exit code: asking for help is no fault. -/
def Halt.exitCode : Halt → Nat
  | help _ => 0
  | nothing _ | misused .. => 2

def CommandName.read (name : CommandName) (words : List String) : Except Halt Command :=
  let misused (fault : UsageFault) : Except Halt Command := .error (.misused name.usage fault)
  match readWords name.rules.options true words with
  | .error fault => misused fault
  | .ok words =>
    if words.has helpRule.name then .error (.help name.usage)
    else match name.rules.fault? words with
      | some fault => misused fault
      | none =>
        match name.ofWords words with
        | .ok command => .ok command
        | .error fault => misused fault

structure Group where
  debug : Bool
  command : CommandName
  words : List String

namespace Group

def rules : List OptionRule := [.flag "--debug", helpRule]

def usage : Usage := ⟨programName, "[OPTIONS] COMMAND [ARGS]..."⟩

/-- The words before the name of a command, sorted out, and all others. -/
def readOptions (words : List String) : Except Halt Words :=
  match readWords rules false words with
  | .error fault => .error (.misused usage fault)
  | .ok words => if words.has helpRule.name then .error (.help usage) else .ok words

/-- A command line read up to the name of a command. A word in its place that is an option after all is read as one. -/
def read (line : List String) : Except Halt Group :=
  if line.isEmpty then .error (.nothing usage)
  else do
    let words ← readOptions line
    match words.arguments with
    | [] => throw (.misused usage .commandMissing)
    | word :: rest =>
      match CommandName.ofWord? word with
      | some command => return ⟨words.has "--debug", command, rest⟩
      | none =>
        let _ ← readOptions (word :: rest)
        throw (.misused usage
          (.unknownCommand word (Text.closeNames word (CommandName.all.map CommandName.word))))

end Group

end VectorTable.CommandLine
