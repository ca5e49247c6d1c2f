import VectorTable.Setting.EnvFile
import VectorTable.Setting.Reading

/-!
# Sources of settings

A field takes its value from the first source that names it: the arguments of the call, the environment, for some groups of settings a file of assignments, and last its default. Names in the environment and in files match in any letter case. A field is read from its own value alone, and every faulty field is reported.
-/

namespace VectorTable.Setting

/-- Where the values of fields may come from, in order of precedence. -/
structure Sources where
  arguments : List (String × Value)
  environment : List (String × String)
  file : List (String × String)

def Sources.empty : Sources := ⟨[], [], []⟩

def Sources.ofEnvironment (environment : List (String × String)) : Sources := ⟨[], environment, []⟩

/-- The last value whose name matches in any letter case. -/
def lookupFolded (entries : List (String × String)) (name : String) : Option String :=
  (entries.reverse.find? fun entry => Text.lowerAscii entry.1 == name).map Prod.snd

/-- A group of settings: with what its names begin outside of arguments, and whether it consults a file. -/
structure Group where
  beginning : String
  readsFile : Bool

def Group.nameOf (group : Group) (name : String) : String := group.beginning ++ name

/-- The value of the field with a name, if a source that the group consults gives it one. -/
def Sources.find? (sources : Sources) (group : Group) (name : String) : Option Value :=
  match lookupName sources.arguments name with
  | some value => some value
  | none =>
    match lookupFolded sources.environment (group.nameOf name) with
    | some text => some (.text text)
    | none =>
      if group.readsFile then (lookupFolded sources.file (group.nameOf name)).map .text else none

/-- A field with a default, read by a rule. -/
structure Field (α : Type) where
  name : String
  default : α
  rule : Value → Except Complaint α

/-- The value of a field of a group, or what is wrong with it. -/
def Field.read {α : Type} (field : Field α) (group : Group) (sources : Sources) :
    Except FieldFault α :=
  match sources.find? group field.name with
  | none => .ok field.default
  | some value => (field.rule value).mapError fun complaint => ⟨field.name, complaint⟩

/-- The fault of a field, if it has one. -/
def faultOf {α : Type} : Except FieldFault α → List FieldFault
  | .ok _ => []
  | .error fault => [fault]

end VectorTable.Setting
