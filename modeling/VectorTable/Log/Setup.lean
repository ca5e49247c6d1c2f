import VectorTable.Log.Entry
import VectorTable.Setting.General
import VectorTable.Text.Case

/-!
# Setting up the log

The log has a threshold and a form. The threshold is named by the caller or else by the settings; the form is one object on a line in production and a line for people elsewhere. Some loggers have a threshold of their own, since only their warnings are of use.
-/

namespace VectorTable.Log

structure Setup where
  threshold : Nat
  production : Bool
deriving DecidableEq, Repr

def thresholdNames : List (String × Nat) :=
  [("DEBUG", 10), ("INFO", 20), ("WARN", 30), ("WARNING", 30), ("ERROR", 40), ("CRITICAL", 50),
    ("FATAL", 50), ("NOTSET", 0)]

/-- Names of forms of lines, which stand beside those of thresholds. -/
def formNames : List (String × String) :=
  [("BASIC_FORMAT", "%(levelname)s:%(name)s:%(message)s")]

/-- The threshold with a given name, in any letter case. -/
def threshold? (name : String) : Except Failure Nat :=
  let name := Text.upper name
  match lookupName thresholdNames name, lookupName formNames name with
  | some number, _ => .ok number
  | none, some text => .error (.notALevel text)
  | none, none => .error (.unknownLevel name)

/-- The set-up that a caller and the settings ask for. An empty name of a threshold counts as none. -/
def Setup.make (settings : Setting.General) (name : Option String) : Except Failure Setup := do
  let name := (name.filter fun name => !name.isEmpty).getD settings.logThreshold.name
  return ⟨← threshold? name, settings.isProduction⟩

/-- The loggers from which only warnings are of use. -/
def quietLoggers : List String := ["asyncpg", "asyncio"]

/-- The least level that quiet loggers print. -/
def quietThreshold : Nat := Level.warning.number

def isWithin (name logger : String) : Bool :=
  logger == name || (name ++ ".").isPrefixOf logger

/-- The least level that a logger prints. -/
def Setup.thresholdOf (setup : Setup) (logger : String) : Nat :=
  if quietLoggers.any fun quiet => isWithin quiet logger then quietThreshold else setup.threshold

/-- Whether an entry is printed. One without a level never is. -/
def Setup.prints (setup : Setup) (entry : Entry) : Bool :=
  entry.level != 0 && setup.thresholdOf entry.logger ≤ entry.level

def Setup.renderer (setup : Setup) : String :=
  if setup.production then "JSONRenderer" else "ConsoleRenderer"

/-- What an event goes through before it is printed, in order. -/
inductive Stage
  | context
  | level
  | logger
  | arguments
  | time
  | span
  | stack
  | decoding
  | failure
  | rendering
deriving DecidableEq, Repr

/-- The stages of an event. The text for people shows failures itself. -/
def Setup.stages (setup : Setup) : List Stage :=
  [.context, .level, .logger, .arguments, .time, .span, .stack, .decoding]
    ++ (if setup.production then [.failure] else []) ++ [.rendering]

abbrev Context := List (String × Value)

/-- A context with more fields, which win over those of the same name. -/
def Context.bind (context : Context) (fields : List (String × Value)) : Context :=
  namedEntries (context ++ fields)

end VectorTable.Log
