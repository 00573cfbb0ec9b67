/-! What can be wrong with a definition document.  An issue is a problem at a path of field names
and list positions; a document that is refused is refused with all its issues, in field order. -/

namespace SplitTest

/-- A problem with one value of a document. -/
inductive Problem
  | missing
  | stringType
  | enumValue
  | literalValue
  | listType
  | dictType
  | modelType
  | tooShort
  | intType
  | intParsing
  | intFromFloat
  | intParsingSize
  | finiteNumber
  | floatType
  | floatParsing
  | boolType
  | boolParsing
  | datetimeType
  | datetimeParsing
  | datetimeFromDateParsing
  /-- A rule of the definition is broken. -/
  | rule (text : String)
  deriving DecidableEq

/-- The code of a problem. -/
def Problem.code : Problem → String
  | missing => "missing"
  | stringType => "string_type"
  | enumValue => "enum"
  | literalValue => "literal_error"
  | listType => "list_type"
  | dictType => "dict_type"
  | modelType => "model_type"
  | tooShort => "too_short"
  | intType => "int_type"
  | intParsing => "int_parsing"
  | intFromFloat => "int_from_float"
  | intParsingSize => "int_parsing_size"
  | finiteNumber => "finite_number"
  | floatType => "float_type"
  | floatParsing => "float_parsing"
  | boolType => "bool_type"
  | boolParsing => "bool_parsing"
  | datetimeType => "datetime_type"
  | datetimeParsing => "datetime_parsing"
  | datetimeFromDateParsing => "datetime_from_date_parsing"
  | rule _ => "value_error"

/-- A problem at a path. -/
structure Issue where
  path : List String
  problem : Problem
  deriving DecidableEq

namespace Issue

/-- Path and code, and the text of a broken rule. -/
def text (i : Issue) : String :=
  ".".intercalate i.path ++ " " ++ i.problem.code ++
    match i.problem with
    | .rule t => ": Value error, " ++ t
    | _ => ""

/-- The issue seen from the value that holds the value under `step`. -/
def under (step : String) (i : Issue) : Issue :=
  { i with path := step :: i.path }

end Issue

end SplitTest
