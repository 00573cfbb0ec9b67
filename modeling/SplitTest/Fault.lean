import SplitTest.Schema.Issue
import SplitTest.Text.Quoted

/-! The causes for which an operation has no result, and their messages. -/

namespace SplitTest

/-- The names under which dialects are registered, in alphabetical order. -/
def dialectNames : List String :=
  ["athena", "bigquery", "duckdb", "postgres", "presto", "redshift", "snowflake", "trino"]

/-- Why an operation has no result. -/
inductive Fault
  /-- A definition document is refused. -/
  | refused (issues : List Issue)
  /-- No dialect has the name. -/
  | unknownDialect (name : String)
  /-- No identifier type has the name, which is given as a message shows it. -/
  | unknownIdType (shown : String)
  /-- The experiment has no phases. -/
  | noPhases (trackingKey : String)
  /-- The logging level is not a level. -/
  | unknownLevel (shown : String)
  /-- The offset of a time is a day or more. -/
  | offsetTooLarge
  /-- A time leaves the years 1 to 9999. -/
  | outOfCalendar
  /-- A whole number is too large for a floating point number. -/
  | numberTooLarge
  /-- Not-a-number has no whole part. -/
  | notANumber
  /-- A digit text is longer than a whole number may be. -/
  | tooManyDigits (count : Nat)
  /-- A value has no such part or operation because it is of another kind. -/
  | wrongShape
  /-- A value of the wrong type stands where it cannot be used. -/
  | wrongType
  /-- A position is outside a list. -/
  | outOfRange
  /-- An object has no such key. -/
  | missingKey (key : String)
  /-- A document is no JSON text. -/
  | malformedDocument
  /-- A document does not exist. -/
  | documentNotFound
  /-- The warehouse reports an error of its own. -/
  | warehouse (kind message : String)
  /-- A query takes longer than allowed. -/
  | timedOut
  deriving DecidableEq

namespace Fault

open Text

/-- The message of a fault; some have none. -/
def message : Fault → String
  | refused issues => "; ".intercalate (issues.map Issue.text)
  | unknownDialect name =>
    "Unknown warehouse dialect " ++ quoted name ++ " (expected one of [" ++
      ", ".intercalate (dialectNames.map quoted) ++ "])"
  | unknownIdType shown => shown ++ " is not a valid IdType"
  | noPhases key => "Experiment " ++ key ++ " has no phases"
  | unknownLevel shown => "Unknown level: " ++ shown
  | offsetTooLarge =>
    "offset must be a timedelta strictly between -timedelta(hours=24) and timedelta(hours=24)."
  | notANumber => "cannot convert float NaN to integer"
  | tooManyDigits count =>
    "Exceeds the limit (4300 digits) for integer string conversion: value has " ++ toString count ++
      " digits; use sys.set_int_max_str_digits() to increase the limit"
  | missingKey key => key
  | warehouse _ m => m
  | _ => ""

end Fault

end SplitTest
