import VectorTable.Json.Writer
import VectorTable.Log.Setup
import VectorTable.Program.Event
import VectorTable.Text.Utf8
import VectorTable.VectorText

/-!
# The lines of the log

How entries become lines. An entry is printed if its level reaches the threshold of its logger. In production an event is one JSON object with its own name, level and logger, the fields bound to the context and the fields of the call, of which the later win; elsewhere it is a line for people. Plain text is printed as it is. An event inside a span is marked.
-/

namespace VectorTable.Log

inductive Line
  | object (fields : List (String × Value))
  | text (text : String)

mutual

/-- A value as a reader of the log finds it: identifiers and byte strings as messages show them, keys as text. -/
def shown : Value → Value
  | .uuid canonical => .text (Value.uuid canonical).display
  | .bytes data => .text (Value.bytes data).display
  | .list items => .list (shownItems items)
  | .dictionary entries => .dictionary (entriesOf Value.same (shownEntries entries))
  | v => v

def shownItems : List Value → List Value
  | [] => []
  | v :: vs => shown v :: shownItems vs

def shownEntries : List (Value × Value) → List (Value × Value)
  | [] => []
  | (key, value) :: entries => (.text (Json.nameText key), shown value) :: shownEntries entries

end

/-- The value of a field as a reader finds it: a byte string of its own is read as text. -/
def shownField : Value → Value
  | .bytes data => .text (Text.decode data)
  | v => shown v

/-- The name under which a logger is shown. The one without a name is the root of all others. -/
def shownLogger (logger : String) : String := if logger.isEmpty then "root" else logger

/-- The field that holds the time of an event, which is not shown. -/
def timeField : String := "timestamp"

/-- The field that asks for the failure at hand. It is not shown itself, and no failure is at hand when an event is printed. -/
def failureField : String := "exc_info"

/-- The fields of an event that is printed: its own, and those of the context that it does not have. -/
def printedFields (context : Context) (fields : List (String × Value)) : List (String × Value) :=
  (fields ++ context.filter fun bound => (lookupName fields bound.1).isNone).filter
    fun field => field.1 != failureField

def eventFields (context : Context) (traced : Bool) (entry : Entry) (name : String)
    (fields : List (String × Value)) : List (String × Value) :=
  (namedEntries ((printedFields context fields).map (fun field => (field.1, shownField field.2))
    ++ [("event", .text name), ("level", .text entry.levelName), ("logger", .text (shownLogger entry.logger))]
    ++ if traced then [("traced", .bool true)] else [])).filter fun field => field.1 != timeField

def splitLines (s : String) : List String := (splitAt '\n' s.toList).map String.ofList

/-- The text of a field for people: without blanks and quotes it stands for itself. -/
def bareText (s : String) : String :=
  if s.toList.any (" \t=\r\n\"'".toList.contains ·) then Text.quoted s else s

def fieldText : Value → String
  | .text s => bareText s
  | .bytes data => bareText (Text.decode data)
  | v => v.display

/-- The text of an event for people, without colours. -/
def consoleText (entry : Entry) (name : String) (fields : List (String × Value)) : String :=
  "[" ++ entry.levelName ++ "] " ++ name ++ " [" ++ shownLogger entry.logger ++ "]"
    ++ String.join (fields.map fun field => " " ++ field.1 ++ "=" ++ fieldText field.2)

/-- What keeps an event from being one object: a key in a field that cannot be a name. Text for people has no such limits. The numbers in events count what is at hand, so there is no limit to their digits. -/
def Setup.fault? (setup : Setup) (context : Context) (entry : Entry) : Option Failure :=
  match entry.content with
  | .event _ fields =>
    if setup.production then
      (Json.obstacle? none (.record (printedFields context fields))).map fun obstacle =>
        .misfit (.unwritable obstacle)
    else none
  | .line _ => none

def Setup.render (setup : Setup) (context : Context) (traced : Bool) (entry : Entry) :
    List Line :=
  match entry.content with
  | .line text => (splitLines text).map .text
  | .event name fields =>
    if setup.production then [.object (eventFields context traced entry name fields)]
    else (splitLines (consoleText entry name (printedFields context fields))).map .text

def Setup.lines (setup : Setup) (context : Context) (traced : Bool) (entry : Entry) :
    List Line :=
  if setup.prints entry then setup.render context traced entry else []

/-- What is printed in a history: the lines of the log and what the program prints itself, in order. `depth` is the number of spans around the beginning; events are marked only where spans are traced. -/
def Setup.printedFrom (setup : Setup) (context : Context) (tracing : Bool) :
    Nat → History → List Line
  | _, [] => []
  | depth, .note (.log entry) :: rest =>
    setup.lines context (tracing && depth != 0) entry
      ++ setup.printedFrom context tracing depth rest
  | depth, .note (.printed text) :: rest =>
    (splitLines text).map .text ++ setup.printedFrom context tracing depth rest
  | depth, .note (.spanEntered ..) :: rest => setup.printedFrom context tracing (depth + 1) rest
  | depth, .note (.spanLeft _) :: rest => setup.printedFrom context tracing (depth - 1) rest
  | depth, _ :: rest => setup.printedFrom context tracing depth rest

def Line.write : Line → String
  | object fields => Json.write (.record fields)
  | text s => s

def Setup.printed (setup : Setup) (context : Context) (tracing : Bool)
    (history : History) : List Line :=
  setup.printedFrom context tracing 0 history

end VectorTable.Log
