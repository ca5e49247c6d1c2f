import VectorTable.Failure
import VectorTable.Text.Similarity

/-!
# Wrong usage

What can be wrong with the words of a command line, and how it is told: the usage of the command, where to find help, and the fault itself.
-/

namespace VectorTable.CommandLine

inductive UsageFault
  | unknownOption (name : String) (close : List String)
  | valueMissing (option : String)
  | valueGiven (option : String)
  | argumentMissing (name : String)
  | optionMissing (option : String)
  | notWhole (option value : String)
  | notAChoice (option value : String) (choices : List String)
  | tooMany (words : List String)
  | commandMissing
  | unknownCommand (name : String) (close : List String)
  | notAColumn (option value : String)
  | refused (cause : Failure)

def suggestion (close : List String) : String :=
  match close with
  | [] => ""
  | [name] => " Did you mean " ++ Text.quoted name ++ "?"
  | names => " (Did you mean one of: " ++ commaSeparated (names.map Text.quoted) ++ "?)"

def UsageFault.message : UsageFault → String
  | unknownOption name close => "No such option " ++ Text.quoted name ++ "." ++ suggestion close
  | valueMissing option => "Option " ++ Text.quoted option ++ " requires an argument."
  | valueGiven option => "Option " ++ Text.quoted option ++ " does not take a value."
  | argumentMissing name => "Missing argument '" ++ name ++ "'."
  | optionMissing option => "Missing option '" ++ option ++ "'."
  | notWhole option value =>
    "Invalid value for '" ++ option ++ "': " ++ Text.quoted value ++ " is not a valid integer."
  | notAChoice option value choices =>
    "Invalid value for '" ++ option ++ "': " ++ Text.quoted value ++ " is not one of "
      ++ commaSeparated (choices.map Text.quoted) ++ "."
  | tooMany words =>
    "Got unexpected extra argument" ++ (if words.length = 1 then "" else "s") ++ " ("
      ++ String.intercalate " " words ++ ")"
  | commandMissing => "Missing command."
  | unknownCommand name close => "No such command " ++ Text.quoted name ++ "." ++ suggestion close
  | notAColumn option value =>
    "Invalid value for " ++ option ++ ": " ++ Text.quoted value ++ " is not NAME:TYPE"
  | refused cause => "Invalid value: " ++ cause.message

/-- A command by its full name, with the words that may follow it. -/
structure Usage where
  command : String
  pattern : String

def Usage.line (usage : Usage) : String := "Usage: " ++ usage.command ++ " " ++ usage.pattern

def Usage.report (usage : Usage) (fault : UsageFault) : List String :=
  [usage.line, "Try '" ++ usage.command ++ " --help' for help.", "", "Error: " ++ fault.message]

end VectorTable.CommandLine
