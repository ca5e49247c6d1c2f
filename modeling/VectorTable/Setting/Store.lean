import VectorTable.Setting.Source

/-!
# Settings of a store

How many matches a search gives unless told otherwise, how long a statement may take, and how many rows go into one batch of an insertion. In the environment the names begin with a word of their own, and a file is not consulted. Arguments that name no field are refused.
-/

namespace VectorTable.Setting

structure Store where
  defaultLimit : { n : Int // 1 ≤ n ∧ n ≤ 10000 }
  commandTimeout : Option { x : Float // 0 < x }
  batchSize : { n : Int // 1 ≤ n ∧ n ≤ 10000 }

namespace Store

/-- No file is consulted for the settings of a store. -/
def group : Group := ⟨"vectorstore_", false⟩

/-- How many matches a search gives unless told otherwise. -/
def defaultLimitField : Field { n : Int // 1 ≤ n ∧ n ≤ 10000 } :=
  ⟨"default_max_results", ⟨4, by decide⟩, readBetween 1 10000⟩

/-- How many seconds a statement may take; nothing stands for no limit. -/
def commandTimeoutField : Field (Option { x : Float // 0 < x }) :=
  ⟨"command_timeout", some ⟨60, by decide⟩, readOptional readPositive⟩

def batchSizeField : Field { n : Int // 1 ≤ n ∧ n ≤ 10000 } :=
  ⟨"insert_batch_size", ⟨500, by decide⟩, readBetween 1 10000⟩

def fieldNames : List String :=
  [defaultLimitField.name, commandTimeoutField.name, batchSizeField.name]

def environmentNames : List String := fieldNames.map group.nameOf

/-- The faults of the arguments that name no field, in order. -/
def unknownArguments (sources : Sources) : List FieldFault :=
  (sources.arguments.filter fun argument => !fieldNames.contains argument.1).map fun argument =>
    ⟨argument.1, .unknownField⟩

/-- The settings that sources give, or the faults of all faulty fields in order and then of the arguments that name none. -/
def read (sources : Sources) : Except (List FieldFault) Store :=
  let defaultLimit := defaultLimitField.read group sources
  let commandTimeout := commandTimeoutField.read group sources
  let batchSize := batchSizeField.read group sources
  let unknown := unknownArguments sources
  match defaultLimit, commandTimeout, batchSize, unknown with
  | .ok defaultLimit, .ok commandTimeout, .ok batchSize, [] =>
    .ok { defaultLimit, commandTimeout, batchSize }
  | _, _, _, _ =>
    .error (faultOf defaultLimit ++ faultOf commandTimeout ++ faultOf batchSize ++ unknown)

def timeLimit (s : Store) : Option Float := s.commandTimeout.map Subtype.val

def batchRows (s : Store) : Nat := s.batchSize.val.toNat

end Store

end VectorTable.Setting
