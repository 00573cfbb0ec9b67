import SplitTest.Calendar.DateTime
import SplitTest.Fault
import SplitTest.Number.Shortest
import SplitTest.Sql
import SplitTest.Text.Case

/-! SQL dialects.  A dialect spells the fragments that warehouses write differently: qualified table
names, timestamps, shifts by hours and minutes, regular expression matches, days and percentiles.
Every fragment is a function of the text it is applied to. -/

namespace SplitTest

inductive Flavor
  | postgres
  | redshift
  | snowflake
  | bigquery
  | presto
  | duckdb
  deriving DecidableEq

def Flavor.name : Flavor → String
  | postgres => "postgres"
  | redshift => "redshift"
  | snowflake => "snowflake"
  | bigquery => "bigquery"
  | presto => "presto"
  | duckdb => "duckdb"

/-- The flavours by the names under which they are registered; Athena and Trino speak Presto. -/
def Flavor.registry : List (String × Flavor) :=
  [("postgres", .postgres), ("redshift", .redshift), ("snowflake", .snowflake),
    ("bigquery", .bigquery), ("presto", .presto), ("duckdb", .duckdb), ("athena", .presto),
    ("trino", .presto)]

/-- A flavour together with the project and the dataset that qualify table names. -/
structure Dialect where
  flavor : Flavor
  project : Option String
  dataset : Option String
  deriving DecidableEq

/-- A name that is present and not empty. -/
def nonEmpty? (s : Option String) : Option String :=
  s.filter (!·.isEmpty)

/-- The nearest whole number of percent, a half going to the even one; not a finite fraction counts
as zero. -/
def percent (fraction : Double) : Int :=
  (fraction.mul (Double.ofNat 100)).round?.getD 0

/-- The nearest whole number of percent, for a fraction that may be no finite number. -/
def percent? (fraction : Double) : Except Fault Int :=
  match fraction.mul (Double.ofNat 100) with
  | .finite s k => .ok ((Double.finite s k).round?.getD 0)
  | .infinity _ => .error .numberTooLarge
  | .nan => .error .notANumber

namespace Dialect

/-- The dialect registered under a name, in any case. -/
def ofName? (name : String) (project dataset : Option String) : Except Fault Dialect :=
  match Flavor.registry.lookup (Text.lower name) with
  | some flavor => .ok { flavor, project, dataset }
  | none => .error (.unknownDialect name)

def approximatePercentiles (d : Dialect) : Bool :=
  d.flavor = .bigquery || d.flavor = .presto

/-- The name of a table, qualified where the flavour has projects and datasets. -/
def fullTableName (d : Dialect) (table : String) : String :=
  match d.flavor with
  | .bigquery =>
    match nonEmpty? d.project, nonEmpty? d.dataset with
    | some project, some dataset =>
      "\x60" ++ project ++ "\x60.\x60" ++ dataset ++ "\x60." ++ table
    | none, some dataset => "\x60" ++ dataset ++ "\x60." ++ table
    | _, none => table
  | _ => table

/-- The text of the literal that denotes an instant to the second, in UTC. -/
def timestampText (t : DateTime) : Except Fault String :=
  match t.toUtc with
  | .ok u => .ok u.stampText
  | .error .offsetTooLarge => .error .offsetTooLarge
  | .error .outOfCalendar => .error .outOfCalendar

/-- The literal that denotes an instant; it is the same in every dialect. -/
def formatTimestamp (_ : Dialect) (t : DateTime) : Except Fault Sql :=
  (timestampText t).map Sql.literal

/-- A column shifted by hours. -/
def addHours (d : Dialect) (column : Sql) (hours : Int) : Sql :=
  let n := toString hours
  match d.flavor with
  | .snowflake => .concat ["DATEADD(hour, ", n, ", ", column, ")"]
  | .bigquery => .concat ["TIMESTAMP_ADD(", column, ", INTERVAL ", n, " HOUR)"]
  | .presto => .concat ["date_add(", .literal "hour", ", ", n, ", ", column, ")"]
  | _ => .concat [column, " + INTERVAL ", .literal (n ++ " hours")]

/-- A column shifted by days. -/
def addInterval (d : Dialect) (column : Sql) (days : Int) : Sql :=
  d.addHours column (days * 24)

/-- The number of minutes by which a session starts before its first event. -/
def sessionMinutes : Int := 30

/-- A column shifted back by minutes. -/
def subtractMinutes (d : Dialect) (column : Sql) (minutes : Int) : Sql :=
  let n := toString minutes
  match d.flavor with
  | .snowflake => .concat ["DATEADD(minute, -", n, ", ", column, ")"]
  | .bigquery => .concat ["TIMESTAMP_SUB(", column, ", INTERVAL ", n, " MINUTE)"]
  | .presto => .concat ["date_add(", .literal "minute", ", -", n, ", ", column, ")"]
  | _ => .concat [column, " - INTERVAL ", .literal (n ++ " minutes")]

/-- The condition that a regular expression matches somewhere in a column.  Snowflake's predicate
matches the whole text, so the expression is put between two of its own. -/
def regexMatch (d : Dialect) (column : Sql) (pattern : String) : Sql :=
  match d.flavor with
  | .snowflake => .concat ["REGEXP_LIKE(", column, ", ", .literal (".*(" ++ pattern ++ ").*"), ")"]
  | .bigquery => .concat ["REGEXP_CONTAINS(", column, ", ", .literal pattern, ")"]
  | .presto => .concat ["regexp_like(", column, ", ", .literal pattern, ")"]
  | .duckdb => .concat ["regexp_matches(", column, ", ", .literal pattern, ")"]
  | _ => .concat [column, " ~ ", .literal pattern]

/-- The day of a column. -/
def dateTrunc (d : Dialect) (column : Sql) : Sql :=
  match d.flavor with
  | .bigquery => .concat ["TIMESTAMP_TRUNC(", column, ", DAY)"]
  | _ => .concat ["date_trunc(", .literal "day", ", ", column, ")"]

/-- The number of days between two times. -/
def dateDiff (d : Dialect) (first last : Sql) : Sql :=
  match d.flavor with
  | .postgres => .concat ["(CAST(", last, " AS DATE) - CAST(", first, " AS DATE))"]
  | .redshift | .snowflake => .concat ["DATEDIFF(day, ", first, ", ", last, ")"]
  | .bigquery => .concat ["DATE_DIFF(DATE(", last, "), DATE(", first, "), DAY)"]
  | .presto =>
    .concat ["date_diff(", .literal "day", ", date_trunc(", .literal "day", ", CAST(", first,
      " AS TIMESTAMP)), date_trunc(", .literal "day", ", CAST(", last, " AS TIMESTAMP)))"]
  | .duckdb =>
    .concat ["date_diff(", .literal "day", ", CAST(", first, " AS TIMESTAMP), CAST(", last,
      " AS TIMESTAMP))"]

/-- The percentile of a column at a fraction. -/
def percentile (d : Dialect) (column : Sql) (fraction : Double) : Sql :=
  match d.flavor with
  | .bigquery =>
    .concat ["APPROX_QUANTILES(", column, ", 100)[OFFSET(", toString (percent fraction), ")]"]
  | .presto => .concat ["approx_percentile(", column, ", ", fraction.text, ")"]
  | .duckdb => .concat ["quantile_cont(", column, ", ", fraction.text, ")"]
  | _ => .concat ["PERCENTILE_CONT(", fraction.text, ") WITHIN GROUP (ORDER BY ", column, ")"]

/-- The percentile of a column at a fraction that may be no finite number. -/
def percentile? (d : Dialect) (column : Sql) (fraction : Double) : Except Fault Sql :=
  match d.flavor with
  | .bigquery => (percent? fraction).map fun _ => d.percentile column fraction
  | _ => .ok (d.percentile column fraction)

end Dialect

end SplitTest
