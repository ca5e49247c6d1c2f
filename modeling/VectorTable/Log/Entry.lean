import VectorTable.Failure

/-!
# Log entries

What the library reports while it works. An event has a name and fields with values; a plain line is text only. Both come from a named logger and have a level.
-/

namespace VectorTable.Log

inductive Level
  | debug
  | info
  | warning
  | error
  | critical
deriving DecidableEq, Repr

namespace Level

def number : Level → Nat
  | debug => 10
  | info => 20
  | warning => 30
  | error => 40
  | critical => 50

def name : Level → String
  | debug => "debug"
  | info => "info"
  | warning => "warning"
  | error => "error"
  | critical => "critical"

def otherNames : List (String × Level) :=
  [("warn", warning), ("exception", error), ("fatal", critical)]

def ofName? (name : String) : Option Level :=
  ([debug, info, warning, error, critical].find? fun level => level.name == name).or
    (lookupName otherNames name)

end Level

/-- What is reported: an event with fields, or a line of text. -/
inductive Content
  | event (name : String) (fields : List (String × Value))
  | line (text : String)

structure Entry where
  logger : String
  level : Nat
  levelName : String
  content : Content

def event (logger : String) (level : Level) (name : String) (fields : List (String × Value)) :
    Entry :=
  ⟨logger, level.number, level.name, .event name fields⟩

def filledEvent (logger : String) (level : Level) (template : String) (values : List Value)
    (fields : List (String × Value)) : Except Failure Entry :=
  match fillTemplate template values with
  | .ok name => .ok (event logger level name fields)
  | .error fault => .error (.misfit (.badTemplate fault))

def line (logger : String) (level : Level) (text : String) : Entry :=
  ⟨logger, level.number, level.name, .line text⟩

end VectorTable.Log
