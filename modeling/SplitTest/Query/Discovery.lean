import SplitTest.Query.Basic

/-! The query that discovers experiments which ran in the past.  A variation's days count while they
have a reasonable share of its best day's traffic, and a variation is reported when it had enough
people, ran for some days, and did not start right at the beginning of the data. -/

namespace SplitTest

namespace Discovery

/-- The share of a variation's best day below which a day is noise. -/
def noiseShare : String := "0.05"

/-- The number of people that a day of real traffic exceeds. -/
def minDailyUsers : String := "5"

/-- The number of people that an experiment exceeds. -/
def minTotalUsers : String := "200"

/-- The number of days that an experiment exceeds. -/
def minDays : String := "5"

/-- The number of days by which an experiment starts after the horizon. -/
def horizonDays : String := "2"

end Discovery

namespace Source

open Discovery

/-- The users of each variation and day of an experiment after the horizon. -/
def experimentDates (s : Source) (horizon : Sql) : DerivedTable :=
  let experiment := s.settings.experimentIdColumn
  let variation := s.settings.variationColumn
  let time := s.settings.timestampColumn .experiments none
  let day := s.dialect.dateTrunc time
  ⟨"__experimentDates", .concat ["\n        SELECT\n          ", experiment,
    " as experiment_id,\n          ", variation, " as variation_id,\n          ", day,
    " as date,\n          count(distinct ",
    s.settings.column .anonymousId .experiments none, ") as users\n        FROM\n          ",
    s.dialect.fullTableName s.settings.experiments.table, "\n        WHERE\n          ", time,
    " > ", horizon, "\n        GROUP BY\n          ", experiment, ",\n          ", variation,
    ",\n          ", day, "\n      "]⟩

/-- The number of users that a day of a variation must exceed. -/
def userThresholds : DerivedTable :=
  ⟨"__userThresholds", .concat [
    "\n        SELECT\n          experiment_id,\n          variation_id,\n          ",
    .comment "Tracking events trickle in long after an experiment ends,", "\n          ",
    .comment "so only keep days with a reasonable share of the peak traffic",
    "\n          max(users) * ", noiseShare,
    " as threshold\n        FROM\n          __experimentDates\n        WHERE\n          ",
    .comment (minDailyUsers ++ " or fewer visitors in a day is not real traffic"),
    "\n          users > ", minDailyUsers,
    "\n        GROUP BY\n          experiment_id, variation_id\n      "]⟩

/-- The first and the last day and the users of each variation. -/
def variationTotals : DerivedTable :=
  ⟨"__variations", .concat [
    "\n        SELECT\n          d.experiment_id,\n          d.variation_id,\n" ++
    "          MIN(d.date) as start_date,\n          MAX(d.date) as end_date,\n" ++
    "          SUM(d.users) as users\n        FROM\n          __experimentDates d\n" ++
    "          JOIN __userThresholds u ON (\n            d.users > ", minDailyUsers,
    "\n            AND d.users > u.threshold\n" ++
    "            AND d.experiment_id = u.experiment_id\n" ++
    "            AND d.variation_id = u.variation_id\n          )\n" ++
    "        GROUP BY\n          d.experiment_id, d.variation_id\n      "]⟩

/-- The query for the experiments that started after a time. -/
def pastExperimentsQuery (s : Source) (dateFrom : DateTime) : Except Fault Query := do
  let horizon ← s.dialect.formatTimestamp dateFrom
  pure {
    title := "Past Experiments"
    tables := [s.experimentDates horizon, userThresholds, variationTotals]
    separator := Query.trailingComma
    body := .concat ["SELECT\n      *\n    FROM\n      __variations\n    WHERE\n      ",
      .comment "Not enough data to be a real experiment", "\n      users > ", minTotalUsers,
      "\n      ", .comment "Most likely stopped early", "\n      AND ",
      s.dialect.dateDiff "start_date" "end_date", " > ", minDays, "\n      ",
      .comment "Started right at the horizon, so earlier data is probably missing",
      "\n      AND ", s.dialect.dateDiff horizon "start_date", " > ", horizonDays,
      "\n    ORDER BY\n      experiment_id ASC, variation_id ASC\n    "] }

end Source

end SplitTest
