import VectorTable.Fault
import VectorTable.Json.Reader
import VectorTable.Json.Writer
import VectorTable.Setting.Complaint
import VectorTable.Value.Template

/-!
# Failures

Why an operation gives no result. A failure is kept as its cause, with the names and values that matter; `message` puts it in words and `name` gives the class under which callers meet it. Failures of the configuration come before anything is sent to the server, mismatches compare a schema with the table it describes, and an execution failure is a fault of the database that an operation has accounted for.
-/

namespace VectorTable

/-- Where a faulty argument was passed: the table and the operation. -/
structure Site where
  table : String
  operation : String
deriving DecidableEq, Repr

/-- Arguments that are refused before anything is sent to the server. -/
inductive Misconfiguration
  | blankKey
  | noComparisonValue (key : String)
  | singleMember (filter key : String)
  | noMembers (filter key : String)
  | nothingAmongMembers (filter key : String)
  | blankColumn
  | noDataType (column : String)
  | blankName (label : String)
  | sharedRole (columns : List String)
  | repeatedColumns (names : List String)
  | reservedColumns (names : List String)
  | jsonColumnTaken (name : String)
  | columnsAndIgnored
  | emptyQuery
  | limitNotPositive (limit : Value)
  | noIds
  | lengthsDiffer (ids embeddings texts metadata : Nat)
  | badVectorSize (size : Value)
  | untypedColumn (name : String)

inductive Mismatch
  | noTable
  | noIdColumn (column : String)
  | noContentColumn (column : String)
  | contentNotText (dataType : String)
  | noEmbeddingColumn (column : String)
  | embeddingNotVector (column : String)
  | noMetadataColumn (column : String)
deriving DecidableEq, Repr

/-- Values that do not fit where they are used. -/
inductive Misfit
  | notIterable (kind : String)
  | notReal (kind : String)
  | notNumeral (shown : String)
  | tooLarge
  | divisionByZero
  | incomparable (operator left right : String)
  | noSubtraction (left right : String)
  | noAddition (left right : String)
  | noIncrease (left right : String)
  | noLength (kind : String)
  | optionNotWhole (option kind : String)
  | optionTooSmall (option : String) (minimum value : Int)
  | indexFieldNotPositive (field : String) (value : Value)
  | unknownQuantizer
  | negativeCount
  | missingField (name : String)
  | noAttribute (kind member : String)
  | notIndexable (kind : String)
  | entryNotSequence (position : Nat)
  | entryLength (position length : Nat)
  | notAKey (kind : String)
  | unwritable (obstacle : Json.Obstacle)
  | badJson (fault : Json.Fault)
  | badTemplate (fault : TemplateFault)

/-- Why an operation gives no result. -/
inductive Failure
  | misconfigured (cause : Misconfiguration) (site : Option Site)
  | unsupportedFilter (node : String)
  | mismatch (cause : Mismatch) (table : String)
  | execution (table operation : String) (cause : Fault)
  | fault (cause : Fault)
  | misfit (cause : Misfit)
  | notConnected
  | unknownLevel (name : String)
  | notALevel (text : String)
  | invalidSettings (faults : List Setting.FieldFault)

instance : Inhabited Failure := ⟨.notConnected⟩

/-- A refused argument, with no mention of table and operation. -/
def Failure.refused (cause : Misconfiguration) : Failure := .misconfigured cause none

def showTexts (texts : List String) : String :=
  "[" ++ commaSeparated (texts.map Text.quoted) ++ "]"

def Misconfiguration.message : Misconfiguration → String
  | blankKey => "Filter key must be a non-blank string"
  | noComparisonValue key => "Comparison value for " ++ Text.quoted key ++ " must not be None"
  | singleMember filter key =>
    filter ++ " filter on " ++ Text.quoted key
      ++ " takes a collection of values, not a single string"
  | noMembers filter key =>
    filter ++ " filter on " ++ Text.quoted key ++ " needs at least one value"
  | nothingAmongMembers filter key =>
    filter ++ " filter on " ++ Text.quoted key ++ " must not contain None"
  | blankColumn => "Metadata column name must not be blank"
  | noDataType column => "Metadata column " ++ Text.quoted column ++ " must declare a data type"
  | blankName label => label ++ " must not be blank"
  | sharedRole columns =>
    "id_column, content_column and embedding_column must be distinct, got " ++ showTexts columns
  | repeatedColumns names => "Duplicate metadata column names: " ++ showTexts names
  | reservedColumns names =>
    "Metadata columns " ++ showTexts names ++ " clash with the id, content or embedding column"
  | jsonColumnTaken name =>
    "metadata_json_column " ++ Text.quoted name ++ " clashes with another configured column"
  | columnsAndIgnored =>
    "Cannot use both metadata_columns and ignore_metadata_columns at the same time"
  | emptyQuery => "query_embedding must not be empty"
  | limitNotPositive limit => "max_results must be greater than 0, got " ++ limit.plain
  | noIds => "ids must not be None or empty"
  | lengthsDiffer ids embeddings texts metadata =>
    "ids, embeddings, texts and metadata must have same length: "
      ++ commaSeparated ([ids, embeddings, texts, metadata].map toString)
  | badVectorSize size => "vector_size must be greater than 0, got " ++ size.display
  | untypedColumn name =>
    "Metadata column " ++ Text.quoted name
      ++ " needs a type to be created; declare it as MetadataColumn"

def Mismatch.message : Mismatch → String
  | noTable => "Table does not exist"
  | noIdColumn column => "Id column, " ++ column ++ ", does not exist"
  | noContentColumn column => "Content column, " ++ column ++ ", does not exist"
  | contentNotText dataType =>
    "Content column is type " ++ dataType ++ ". It must be a type of character string"
  | noEmbeddingColumn column => "Embedding column, " ++ column ++ ", does not exist"
  | embeddingNotVector column => "Embedding column, " ++ column ++ ", is not type Vector"
  | noMetadataColumn column => "Metadata column, " ++ column ++ ", does not exist"

namespace Misfit

/-- The class of a misfit: whether a value is of the wrong kind, out of range, missing or misspelt. -/
def name : Misfit → String
  | notIterable _ | notReal _ | incomparable .. | noSubtraction .. | noAddition .. | noIncrease ..
  | noLength _
  | optionNotWhole .. | notIndexable _ | entryNotSequence _ | notAKey _ | unwritable (.badName _) =>
    "TypeError"
  | notNumeral _ | optionTooSmall .. | indexFieldNotPositive .. | unknownQuantizer
  | negativeCount | entryLength .. | unwritable .tooManyDigits => "ValueError"
  | tooLarge => "OverflowError"
  | divisionByZero => "ZeroDivisionError"
  | missingField _ => "KeyError"
  | noAttribute .. => "AttributeError"
  | badJson fault => if fault.flaw.isMisspelling then "JSONDecodeError" else "ValueError"
  | badTemplate fault => fault.name

private def operands (left right : String) : String := "'" ++ left ++ "' and '" ++ right ++ "'"

def message : Misfit → String
  | notIterable kind => "'" ++ kind ++ "' object is not iterable"
  | notReal kind => "float() argument must be a string or a real number, not '" ++ kind ++ "'"
  | notNumeral shown => "could not convert string to float: " ++ shown
  | tooLarge => "int too large to convert to float"
  | divisionByZero => "float division by zero"
  | incomparable operator left right =>
    "'" ++ operator ++ "' not supported between instances of " ++ operands left right
  | noSubtraction left right => "unsupported operand type(s) for -: " ++ operands left right
  | noAddition left right => "unsupported operand type(s) for +: " ++ operands left right
  | noIncrease left right => "unsupported operand type(s) for +=: " ++ operands left right
  | noLength kind => "object of type '" ++ kind ++ "' has no len()"
  | optionNotWhole option kind => option ++ " must be an int, got " ++ kind
  | optionTooSmall option minimum value =>
    option ++ " must be >= " ++ toString minimum ++ ", got " ++ toString value
  | indexFieldNotPositive field value =>
    field ++ " must be a positive int, got " ++ value.display
  | unknownQuantizer => "quantizer must be one of ['flat', 'sq8']"
  | negativeCount => "Counters can only be incremented by non-negative amounts."
  | missingField name => Text.quoted name
  | noAttribute kind member => "'" ++ kind ++ "' object has no attribute '" ++ member ++ "'"
  | notIndexable kind =>
    if kind = "str" then "string indices must be integers, not 'str'"
    else if kind = "list" then "list indices must be integers or slices, not str"
    else if kind = "bytes" then "byte indices must be integers or slices, not str"
    else "'" ++ kind ++ "' object is not subscriptable"
  | entryNotSequence position =>
    "cannot convert dictionary update sequence element #" ++ toString position
      ++ " to a sequence"
  | entryLength position length =>
    "dictionary update sequence element #" ++ toString position ++ " has length "
      ++ toString length ++ "; 2 is required"
  | notAKey kind => "unhashable type: '" ++ kind ++ "'"
  | unwritable obstacle => obstacle.message
  | badJson fault => fault.message
  | badTemplate fault => fault.message

end Misfit

namespace Failure

def name : Failure → String
  | misconfigured .. => "ConfigurationError"
  | unsupportedFilter _ => "UnsupportedFilterError"
  | mismatch .. => "SchemaMismatchError"
  | execution .. => "ExecutionError"
  | fault cause => cause.kind.name
  | misfit cause => cause.name
  | notConnected => "RuntimeError"
  | unknownLevel _ => "AttributeError"
  | notALevel _ => "ValueError"
  | invalidSettings _ => "ValidationError"

/-- A failure in words. The invalid settings are told one by one, so they have no words in common. -/
def message : Failure → String
  | misconfigured cause none => cause.message
  | misconfigured cause (some site) =>
    cause.message ++ " (operation: " ++ site.operation ++ ", table: " ++ site.table ++ ")"
  | unsupportedFilter node => "Unsupported filter type: " ++ node
  | mismatch cause table => cause.message ++ " (table: " ++ table ++ ")"
  | execution table operation cause =>
    "Exception caught during " ++ operation ++ " on vector store table " ++ table ++ ": "
      ++ cause.text
  | fault cause => cause.text
  | misfit cause => cause.message
  | notConnected => "Database not connected. Call connect() first."
  | unknownLevel name => "module 'logging' has no attribute '" ++ name ++ "'"
  | notALevel text => "Unknown level: " ++ Text.quoted text
  | invalidSettings _ => ""

/-- Whether the failure is one of the store's own: a refused argument, a mismatch or an execution failure. -/
def isOwn : Failure → Bool
  | misconfigured .. | unsupportedFilter _ | mismatch .. | execution .. => true
  | _ => false

def table? : Failure → Option String
  | misconfigured _ site => site.map Site.table
  | mismatch _ table | execution table _ _ => some table
  | _ => none

def operation? : Failure → Option String
  | misconfigured _ site => site.map Site.operation
  | execution _ operation _ => some operation
  | _ => none

def cause? : Failure → Option Fault
  | execution _ _ cause => some cause
  | _ => none

def isCancellation : Failure → Bool
  | fault cause => cause.isCancellation
  | _ => false

end Failure

end VectorTable
