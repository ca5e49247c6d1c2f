import VectorTable.CommandLine.Usage
import VectorTable.Decimal.Reader

/-!
# Reading the words of a command line

A word that begins with a hyphen is an option, unless it is a hyphen alone; all others are arguments. An option may take the next word as its value, whatever that word looks like, or a value after an equals sign. Two hyphens alone end the options. Options may stand among the arguments, except before the name of a command, where the first argument ends them.
-/

namespace VectorTable.CommandLine

/-- What an option takes: nothing, any text, a whole number, or one of several words. -/
inductive OptionKind
  | flag
  | text
  | whole
  | choice (words : List String)
deriving DecidableEq, Repr

structure OptionRule where
  name : String
  kind : OptionKind
  required : Bool
deriving DecidableEq, Repr

namespace OptionRule

def flag (name : String) : OptionRule := ⟨name, .flag, false⟩

def text (name : String) : OptionRule := ⟨name, .text, false⟩

def fault? (rule : OptionRule) (value : String) : Option UsageFault :=
  match rule.kind with
  | .flag | .text => none
  | .whole =>
    match Decimal.readInt? value with
    | some _ => none
    | none => some (.notWhole rule.name value)
  | .choice words =>
    if words.contains value then none else some (.notAChoice rule.name value words)

end OptionRule

/-- The words of a command line sorted out: the options in order, each with its value if it takes one, and the arguments. -/
structure Words where
  options : List (String × Option String)
  arguments : List String

namespace Words

def empty : Words := ⟨[], []⟩

def addOption (name : String) (value : Option String) (words : Words) : Words :=
  { words with options := (name, value) :: words.options }

def addArgument (argument : String) (words : Words) : Words :=
  { words with arguments := argument :: words.arguments }

/-- The value of an option; of several the last. -/
def value? (words : Words) (name : String) : Option String :=
  (words.options.reverse.find? fun option => option.1 == name).bind Prod.snd

/-- The value of an option, or what it is without one. -/
def valueOr (words : Words) (name fallback : String) : String :=
  (words.value? name).getD fallback

/-- The values of an option that may be repeated, in order. -/
def values (words : Words) (name : String) : List String :=
  words.options.filterMap fun option => if option.1 == name then option.2 else none

def has (words : Words) (name : String) : Bool :=
  words.options.any fun option => option.1 == name

/-- The names of the options, in the order in which they first came. -/
def optionNames (words : Words) : List String := (words.options.map Prod.fst).eraseDups

end Words

def isOption (word : String) : Bool :=
  word.toList.head? == some '-' && word != "-"

def splitOption (word : String) : String × Option String :=
  let cs := word.toList
  match cs.dropWhile (· != '=') with
  | [] => (word, none)
  | _ :: value => (String.ofList (cs.takeWhile (· != '=')), some (String.ofList value))

/-- The fault of an option that nobody knows. With two hyphens it is reported whole, together with the names close to it; with one only its first letter is. -/
def unknownOption (rules : List OptionRule) (word name : String) : UsageFault :=
  match word.toList with
  | '-' :: '-' :: _ => .unknownOption name (Text.closeNames name (rules.map OptionRule.name))
  | '-' :: c :: _ => .unknownOption (String.ofList ['-', c]) []
  | _ => .unknownOption name []

/-- The words sorted out by the rules of a command. With `mixed`, options may follow arguments. -/
def readWords (rules : List OptionRule) (mixed : Bool) : List String → Except UsageFault Words
  | [] => .ok .empty
  | word :: rest =>
    if word = "--" then .ok ⟨[], rest⟩
    else if isOption word then
      let (name, attached) := splitOption word
      match rules.find? fun rule => rule.name == name with
      | none => .error (unknownOption rules word name)
      | some rule =>
        if rule.kind ≠ .flag then
          match attached, rest with
          | some value, rest => (readWords rules mixed rest).map (.addOption name (some value))
          | none, value :: rest => (readWords rules mixed rest).map (.addOption name (some value))
          | none, [] => .error (.valueMissing name)
        else if attached.isSome then .error (.valueGiven name)
        else (readWords rules mixed rest).map (.addOption name none)
    else if mixed then (readWords rules mixed rest).map (.addArgument word)
    else .ok ⟨[], word :: rest⟩

/-- The words that may follow a command: its options and its arguments, of which the last may be repeated. -/
structure WordRules where
  options : List OptionRule
  arguments : List String
  repeated : Bool

namespace WordRules

/-- The first fault of the given options, in the order in which they were given. -/
def optionFault? (rules : WordRules) (words : Words) : Option UsageFault :=
  words.optionNames.findSome? fun name => do
    (← rules.options.find? fun rule => rule.name == name).fault? (← words.value? name)

/-- The first argument that is missing. -/
def missingArgument? (rules : WordRules) (words : Words) : Option UsageFault :=
  rules.arguments[words.arguments.length]?.map .argumentMissing

/-- The first required option that is missing. -/
def missingOption? (rules : WordRules) (words : Words) : Option UsageFault :=
  (rules.options.find? fun rule => rule.required && !words.has rule.name).map fun rule =>
    .optionMissing rule.name

def extra? (rules : WordRules) (words : Words) : Option UsageFault :=
  match words.arguments.drop rules.arguments.length with
  | [] => none
  | extra => if rules.repeated then none else some (.tooMany extra)

/-- The first fault of words that have been sorted out. -/
def fault? (rules : WordRules) (words : Words) : Option UsageFault :=
  ((rules.optionFault? words).or (rules.missingArgument? words)).or
    ((rules.missingOption? words).or (rules.extra? words))

end WordRules

end VectorTable.CommandLine
