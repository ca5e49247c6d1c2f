/-!
# What is wrong with a setting

Every field of the settings is read by a rule of its own, and a value that breaks the rule gives one complaint. A complaint has a code, for programs, and a message, for people.
-/

namespace VectorTable.Setting

/-- Why a text is no address of a database. -/
inductive UrlFlaw
  | empty
  | noScheme
  | emptyHost
  | badPort
  | badAddress
  | badHost
deriving DecidableEq, Repr

inductive Complaint
  | notIntegerText
  | fractional
  | notFinite
  | notInteger
  | oversized
  | notNumberText
  | notNumber
  | notTruthText
  | notTruth
  | below (bound : Int)
  | above (bound : Int)
  | notPositive
  | notAChoice (choices : List String)
  | notText
  | notUnicode
  | notUrl
  | badUrl (flaw : UrlFlaw)
  | wrongScheme
  | unknownField
deriving DecidableEq, Repr

def databaseSchemes : List String :=
  ["postgres", "postgresql", "postgresql+asyncpg", "postgresql+pg8000", "postgresql+psycopg",
    "postgresql+psycopg2", "postgresql+psycopg2cffi", "postgresql+py-postgresql",
    "postgresql+pygresql"]

/-- Alternatives in quotes, separated by commas and a final `or`. -/
def alternatives : List String → String
  | [] => ""
  | [only] => "'" ++ only ++ "'"
  | [first, last] => "'" ++ first ++ "' or '" ++ last ++ "'"
  | first :: rest => "'" ++ first ++ "', " ++ alternatives rest

/-- A flaw of an address, in words. -/
def UrlFlaw.message : UrlFlaw → String
  | empty => "input is empty"
  | noScheme => "relative URL without a base"
  | emptyHost => "empty host"
  | badPort => "invalid port number"
  | badAddress => "invalid IPv6 address"
  | badHost => "invalid domain character"

namespace Complaint

def code : Complaint → String
  | notIntegerText => "int_parsing"
  | fractional => "int_from_float"
  | notFinite => "finite_number"
  | notInteger => "int_type"
  | oversized => "int_parsing_size"
  | notNumberText => "float_parsing"
  | notNumber => "float_type"
  | notTruthText => "bool_parsing"
  | notTruth => "bool_type"
  | below _ => "greater_than_equal"
  | above _ => "less_than_equal"
  | notPositive => "greater_than"
  | notAChoice _ => "literal_error"
  | notText => "string_type"
  | notUnicode => "string_unicode"
  | notUrl => "url_type"
  | badUrl _ => "url_parsing"
  | wrongScheme => "url_scheme"
  | unknownField => "extra_forbidden"

def message : Complaint → String
  | notIntegerText => "Input should be a valid integer, unable to parse string as an integer"
  | fractional => "Input should be a valid integer, got a number with a fractional part"
  | notFinite => "Input should be a finite number"
  | notInteger => "Input should be a valid integer"
  | oversized => "Unable to parse input string as an integer, exceeded maximum size"
  | notNumberText => "Input should be a valid number, unable to parse string as a number"
  | notNumber => "Input should be a valid number"
  | notTruthText => "Input should be a valid boolean, unable to interpret input"
  | notTruth => "Input should be a valid boolean"
  | below bound => "Input should be greater than or equal to " ++ toString bound
  | above bound => "Input should be less than or equal to " ++ toString bound
  | notPositive => "Input should be greater than 0"
  | notAChoice choices => "Input should be " ++ alternatives choices
  | notText => "Input should be a valid string"
  | notUnicode =>
    "Input should be a valid string, unable to parse raw data as a unicode string"
  | notUrl => "URL input should be a string or URL"
  | badUrl flaw => "Input should be a valid URL, " ++ flaw.message
  | wrongScheme => "URL scheme should be " ++ alternatives databaseSchemes
  | unknownField => "Extra inputs are not permitted"

end Complaint

structure FieldFault where
  field : String
  complaint : Complaint
deriving DecidableEq, Repr

end VectorTable.Setting
