import SplitTest.Query.Experiment
import SplitTest.Schema.Params

/-! Queries that look at a site without an experiment: the visitors of pages, and the value of a
metric among them.  Both can add a row for each day, and the latter a ladder of percentiles. -/

namespace SplitTest

/-- The fractions of the percentile ladder. -/
def percentileLadder : List Double :=
  [(1, -2), (5, -2), (1, -1), (2, -1), (3, -1), (4, -1), (5, -1), (6, -1), (7, -1), (8, -1),
    (9, -1), (95, -2), (99, -2)].map fun (n, e) => Double.ofDecimal false n e

/-- The name of the column of a percentile. -/
def percentileAlias (fraction : Double) : String :=
  "p" ++ toString (percent fraction)

/-- The name of the column of a percentile whose fraction may be no finite number. -/
def percentileAlias? (fraction : Double) : Except Fault String :=
  (percent? fraction).map fun n => "p" ++ toString n

namespace UsersQueryParams

/-- A regular expression that selects some pages only; the expression that every text matches is as
good as none. -/
def pageFilter? (p : UsersQueryParams) : Option String :=
  (nonEmpty? p.urlRegex).filter (· != ".*")

/-- The column of a row that is not about a single day. -/
def dateColumn (p : UsersQueryParams) : Sql :=
  if p.includeByDate then "NULL as date," else .empty

/-- The join that restricts users to a segment. -/
def segmentJoin (p : UsersQueryParams) : Sql :=
  if p.segment.isSome then
    "JOIN __segment s ON (s.user_id = u.user_id AND s.date <= u.actual_start)"
  else .empty

end UsersQueryParams

namespace Source

/-- The table of the visitors of pages, with the time of their first visit. -/
def pageUsersTable (s : Source) (p : UsersQueryParams) : Except Fault Sql := do
  let time := s.settings.timestampColumn .pageviews none
  let user := s.settings.idColumn p.userIdType .pageviews none
  let visit : Sql := "MIN(" ++ time ++ ")"
  let filter : Sql := match p.pageFilter? with
    | some pattern =>
      .concat ["\n      AND ", s.dialect.regexMatch s.settings.pageviews.urlColumn pattern]
    | none => .empty
  let first ← s.dialect.formatTimestamp p.dateFrom.startOfDay
  let last ← s.dialect.formatTimestamp p.dateTo.startOfDay
  pure (.concat [.comment "Users visiting specific pages", "\n    SELECT\n      ", user,
    " as user_id,\n      ", visit, " as actual_start,\n      ",
    s.dialect.addHours visit p.conversionWindowHours, " as conversion_end,\n      ",
    s.dialect.subtractMinutes visit Dialect.sessionMinutes, " as session_start\n    FROM\n      ",
    s.dialect.fullTableName s.settings.pageviews.table, "\n    WHERE\n      ", time, " >= ", first,
    "\n      AND ", time, " <= ", last, filter, "\n    GROUP BY\n      ", user, "\n    "])

/-- The derived tables of the visitors and of the segment, if there is one. -/
def visitorTables (s : Source) (p : UsersQueryParams) : Except Fault (List DerivedTable) := do
  let users ← s.pageUsersTable p
  pure (⟨"__users", users⟩ :: p.segment.toList.map fun g =>
    DerivedTable.mk "__segment" (s.segmentTable g p.userIdType))

/-- The query for the number of visitors. -/
def usersQuery (s : Source) (p : UsersQueryParams) : Except Fault Query := do
  let tables ← s.visitorTables p
  let day := s.dialect.dateTrunc "u.actual_start"
  let byDate : Sql :=
    if p.includeByDate then
      .concat ["\n    UNION ALL\n    SELECT\n      ", day,
        " as date,\n      COUNT(DISTINCT u.user_id) as users\n    FROM\n      __users u\n      ",
        p.segmentJoin, "\n    GROUP BY\n      ", day, "\n    ORDER BY\n      date ASC\n    "]
    else .empty
  pure {
    title := p.name ++ " - Number of Users"
    tables
    separator := Query.leadingComma
    body := .concat ["SELECT\n      ", p.dateColumn,
      "\n      COUNT(DISTINCT u.user_id) as users\n    FROM\n      __users u\n      ",
      p.segmentJoin, "\n    ", byDate, "\n    "] }

/-- The columns of the percentile ladder, of a column or of zeros; a binomial metric has none. -/
def percentileColumns (s : Source) (m : MetricDefinition) (column : Option Sql) : Sql :=
  if m.type = .binomial then .empty
  else
    .concat [",\n      ", .join ",\n      " (percentileLadder.map fun fraction =>
      .concat [match column with
        | some c => s.dialect.percentile c fraction
        | none => "0", " as ", percentileAlias fraction])]

/-- The query for the value of a metric among visitors. -/
def metricValueQuery (s : Source) (p : MetricValueParams) : Except Fault Query := do
  let m := p.metric
  let visitors ← s.visitorTables p.toUsersQueryParams
  let metric ← s.metricTable m p.userIdType
  let distinct := DerivedTable.mk "__distinctUsers" (.concat [
    "\n      SELECT\n        u.user_id,\n        MIN(u.conversion_end) as conversion_end,\n" ++
    "        MIN(u.session_start) as session_start,\n" ++
    "        MIN(u.actual_start) as actual_start\n" ++
    "      FROM\n        __users u\n        ", p.segmentJoin,
    "\n      GROUP BY\n        u.user_id\n    "])
  let perUser := s.userMetricTable m "__userMetric"
    "Add in the aggregate metric value for each user" .empty "d.user_id"
  let day := s.dialect.dateTrunc "d.actual_start"
  let perDay := if p.includeByDate then
      [s.userMetricTable m "__userMetricDates"
        "Add in the aggregate metric value for each user and day"
        (.concat [day, " as date,\n        "]) (.concat [day, ",\n        d.user_id"])]
    else []
  let ladder (column : Option Sql) : Sql :=
    if p.includePercentiles then s.percentileColumns m column else .empty
  let byDate : Sql :=
    if p.includeByDate then
      .concat ["\n    UNION ALL\n    SELECT\n      date,\n      " ++ momentColumns, ladder none,
        "\n    FROM\n      __userMetricDates\n    GROUP BY\n      date\n    ORDER BY\n" ++
        "      date ASC\n    "]
    else .empty
  pure {
    title := p.name ++ " - " ++ m.name ++ " Metric"
    tables := visitors ++ [⟨"__metric", metric⟩, distinct, perUser] ++ perDay
    separator := Query.leadingComma
    body := .concat ["SELECT\n      ", p.dateColumn, "\n      " ++ momentColumns,
      ladder (some "value"), "\n    FROM\n      __userMetric\n    ", byDate, "\n    "] }

end Source

end SplitTest
