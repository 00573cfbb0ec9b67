import SplitTest.Results.Cell

/-! Results from rows.  Rows that carry a date make up a series by day; of the rows without one the
last counts.  A metric's rows may have columns for percentiles too. -/

namespace SplitTest

/-- The users of a day. -/
structure UsersDate where
  date : String
  users : Int
  deriving DecidableEq

/-- Users in total and by day. -/
structure UsersResult where
  users : Int
  dates : Option (List UsersDate)
  deriving DecidableEq

/-- The moments of a metric on a day. -/
structure MetricValueDate where
  date : String
  count : Int
  mean : Double
  stddev : Double
  deriving DecidableEq

/-- The moments and the percentiles of a metric in total, and the moments by day. -/
structure MetricValueResult where
  count : Int
  mean : Double
  stddev : Double
  /-- The percentiles by their numbers. -/
  percentiles : Option (List (Nat × Double))
  dates : Option (List MetricValueDate)
  deriving DecidableEq

/-- A variation of an experiment that ran in the past. -/
structure PastExperiment where
  experimentId : String
  variationId : String
  startDate : Option DateTime
  endDate : Option DateTime
  users : Int
  deriving DecidableEq

/-- An item added at the end of a series that may not have begun. -/
def addToSeries {α : Type} (series : Option (List α)) (item : α) : Option (List α) :=
  some (series.getD [] ++ [item])

namespace UsersResult

/-- No users. -/
def none : UsersResult := ⟨0, Option.none⟩

/-- The result with one more row. -/
def addRow (r : UsersResult) (row : Row) : Except Fault UsersResult := do
  let date := row.get "date"
  let users ← Cell.toInt (row.get "users")
  if date.isEmpty then pure { r with users }
  else pure { r with dates := addToSeries r.dates ⟨date.display, users⟩ }

/-- The result of all rows. -/
def ofRows (rows : List Row) : Except Fault UsersResult :=
  rows.foldlM addRow none

end UsersResult

namespace MetricValueResult

/-- No values. -/
def none : MetricValueResult := ⟨0, Double.zero, Double.zero, Option.none, Option.none⟩

/-- The digits in the name of a percentile column: after a `p`, up to the end or to a line break at
the end. -/
def percentileDigits? (column : String) : Option (List Nat) :=
  match column.toList with
  | 'p' :: rest =>
    let digits := if rest.getLast? == some '\n' then rest.dropLast else rest
    if digits.isEmpty then Option.none else digits.mapM Text.digit?
  | _ => Option.none

/-- The number that the digits in the name of a percentile column denote. -/
def percentileNumber (digits : List Nat) : Except Fault Nat :=
  if digits.length ≤ digitLimit then .ok (Text.ofDigits digits)
  else .error (.tooManyDigits digits.length)

/-- The percentiles with one more column of a row.  A fault of the cell comes before one of the
column's name. -/
def addColumn (percentiles : Option (List (Nat × Double))) (column : String × Value) :
    Except Fault (Option (List (Nat × Double))) :=
  match percentileDigits? column.1 with
  | Option.none => .ok percentiles
  | some digits => do
    let x ← Cell.toDouble column.2
    let n ← percentileNumber digits
    pure (some (assign n x (percentiles.getD [])))

/-- The result with one more row. -/
def addRow (r : MetricValueResult) (row : Row) : Except Fault MetricValueResult := do
  let date := row.get "date"
  let count ← Cell.toInt (row.get "count")
  let mean ← Cell.toDouble (row.get "mean")
  let stddev ← Cell.toDouble (row.get "stddev")
  if date.isEmpty then
    let percentiles ← row.foldlM addColumn r.percentiles
    pure { r with count, mean, stddev, percentiles }
  else pure { r with dates := addToSeries r.dates ⟨date.display, count, mean, stddev⟩ }

/-- The result of all rows. -/
def ofRows (rows : List Row) : Except Fault MetricValueResult :=
  rows.foldlM addRow none

end MetricValueResult

namespace PastExperiment

/-- The variation that a row describes, where `read?` reads the texts of times. -/
def ofRowBy (read? : String → Option DateTime) (row : Row) : Except Fault PastExperiment := do
  let startDate ← Cell.toTimeBy read? (row.get "start_date")
  let endDate ← Cell.toTimeBy read? (row.get "end_date")
  let users ← Cell.toInt (row.get "users")
  pure { experimentId := (row.get "experiment_id").display
         variationId := (row.get "variation_id").display, startDate, endDate, users }

/-- The variations that rows describe, where `read?` reads the texts of times. -/
def ofRowsBy (read? : String → Option DateTime) (rows : List Row) :
    Except Fault (List PastExperiment) :=
  rows.mapM (ofRowBy read?)

/-- The variations that rows describe, where parts of a time that a text leaves out are those of the
reference. -/
def ofRows (reference : Lenient.Reference) (rows : List Row) : Except Fault (List PastExperiment) :=
  ofRowsBy (Lenient.read? reference) rows

end PastExperiment

end SplitTest
