import SplitTest.Query.Exploration
import SplitTest.Results.Cell

/-! Estimating the impact of an experiment before it runs.  The last thirty days count, without the
three most recent ones whose conversions may still come in.  Three queries give the visitors of the
pages, the value of the metric on the whole site and its value on the pages; the estimate is their
daily average. -/

namespace SplitTest

/-- What an estimate is asked for. -/
structure ImpactRequest where
  metric : MetricDefinition
  urlRegex : Option String
  segment : Option SegmentDefinition
  now : DateTime

/-- Daily averages. -/
structure ImpactEstimate where
  users : Double
  value : Double
  metricTotal : Double
  deriving DecidableEq

namespace Impact

/-- The number of days that count. -/
def days : Nat := 30

/-- The number of most recent days that do not count. -/
def settleDays : Nat := 3

/-- The conversion window of the queries, in hours. -/
def windowHours : Int := 72

/-- The parameters that the three queries share. -/
def baseParams (r : ImpactRequest) : Except Fault UsersQueryParams :=
  match r.now.minusDays? (days + settleDays : Nat), r.now.minusDays? settleDays with
  | some dateFrom, some dateTo =>
    .ok { name := "", dateFrom, dateTo, urlRegex := none, segment := none
          userIdType := r.metric.userIdType, conversionWindowHours := windowHours
          includeByDate := false }
  | _, _ => .error .outOfCalendar

/-- The parameters of the query for visitors of the pages. -/
def usersParams (r : ImpactRequest) (base : UsersQueryParams) : UsersQueryParams :=
  { base with name := "Traffic - Selected Pages and Segment", urlRegex := r.urlRegex
              segment := r.segment }

/-- The parameters of the query for the metric on the whole site. -/
def siteParams (r : ImpactRequest) (base : UsersQueryParams) : MetricValueParams :=
  { base with
    name := "Metric Value - Entire Site"
    metric := r.metric
    includePercentiles := false }

/-- The parameters of the query for the metric on the pages. -/
def pagesParams (r : ImpactRequest) (base : UsersQueryParams) : MetricValueParams :=
  { base with name := "Metric Value - Selected Pages and Segment", urlRegex := r.urlRegex
              segment := r.segment, metric := r.metric, includePercentiles := false }

/-- The three queries: visitors, metric on the site, metric on the pages. -/
def queries (s : Source) (r : ImpactRequest) : Except Fault (List Query) := do
  let base ← baseParams r
  let users ← s.usersQuery (usersParams r base)
  let site ← s.metricValueQuery (siteParams r base)
  let pages ← s.metricValueQuery (pagesParams r base)
  pure [users, site, pages]

/-- A number that is absent where it is too large. -/
def inRange : Option Double → Except Fault Double
  | some x => .ok x
  | none => .error .numberTooLarge

/-- The daily average of a count. -/
def dailyCount (n : Int) : Except Fault Double :=
  inRange (Double.ofQuotient? n days)

/-- The daily average of a sum, given as a count and a mean. -/
def dailySum (count : Int) (mean : Double) : Except Fault Double :=
  (inRange (Double.ofInt? count)).map fun n => (n.mul mean).divNat days

/-- The daily average of a metric's row. -/
def dailyValue (row : Row) : Except Fault Double := do
  let count ← Cell.toInt (row.get "count")
  let mean ← Cell.toDouble (row.get "mean")
  dailySum count mean

/-- An estimate without data. -/
def noData : ImpactEstimate := ⟨Double.zero, Double.zero, Double.zero⟩

/-- The estimate from the first rows of the three answers, if each has one. -/
def estimate? (users site pages : List Row) : Except Fault (Option ImpactEstimate) :=
  match users, site, pages with
  | u :: _, s :: _, p :: _ => do
    let users ← dailyCount (← Cell.toInt (u.get "users"))
    let value ← dailyValue p
    let metricTotal ← dailyValue s
    pure (some { users, value, metricTotal })
  | _, _, _ => .ok none

end Impact

end SplitTest
