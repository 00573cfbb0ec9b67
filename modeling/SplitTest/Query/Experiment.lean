import SplitTest.Query.Metric
import SplitTest.Query.Override

/-! The queries of an experiment.  The users query counts the people in each variation, split by a
dimension if there is one; a metric query sums up the values of a metric over the same people.  With
an activation metric only people count who activated within the experiment's conversion window, and
their windows start at the activation. -/

namespace SplitTest

/-- The analysis of an experiment that a query is a part of. -/
structure Analysis where
  experiment : ExperimentDefinition
  phase : ExperimentPhase
  activation : Option MetricDefinition
  dimension : Option DimensionDefinition
  /-- The time at which a phase without an end is cut off. -/
  now : DateTime

namespace Source

/-- The table of the views of an experiment in a phase. -/
def experimentTable (s : Source) (e : ExperimentDefinition) (phase : ExperimentPhase)
    (idType : IdType) : Except Fault Sql := do
  let ident := s.reconcile idType e.userIdType "e"
    (s.settings.idColumn e.userIdType .experiments none)
    (s.settings.idColumn idType .experiments none)
  let time : Sql := "e." ++ s.settings.timestampColumn .experiments none
  let last ← match phase.dateEnded with
    | some t => do pure (Sql.concat ["\n      AND ", time, " <= ", ← s.dialect.formatTimestamp t])
    | none => pure Sql.empty
  let first ← s.dialect.formatTimestamp phase.dateStarted
  pure (.concat [.comment "Viewed Experiment", "\n    SELECT\n      ", ident.column,
    " as user_id,\n      e.", s.settings.variationColumn, " as variation,\n      ", time,
    " as actual_start,\n      ", s.dialect.addHours time e.conversionWindowHours,
    " as conversion_end,\n      ", s.dialect.subtractMinutes time Dialect.sessionMinutes,
    " as session_start\n    FROM\n      ",
    s.dialect.fullTableName s.settings.experiments.table, " e\n      ", ident.join,
    "\n    WHERE\n      e.", s.settings.experimentIdColumn, " = ", .literal e.trackingKey,
    "\n      AND ", time, " >= ", first, last, "\n    "])

/-- The table of the users of a segment, with the date from which they are in it. -/
def segmentTable (s : Source) (segment : SegmentDefinition) (idType : IdType) : Sql :=
  let ident := s.reconcile idType segment.userIdType "s" "user_id" "user_id"
  .concat [.comment ("Segment (" ++ segment.name ++ ")"), "\n    SELECT\n      ", ident.column,
    " as user_id,\n      s.date\n    FROM\n      (", segment.sql, ") s\n      ", ident.join,
    "\n    "]

/-- The table of the users of a dimension, with their values. -/
def dimensionTable (s : Source) (dimension : DimensionDefinition) (idType : IdType) : Sql :=
  let ident := s.reconcile idType dimension.userIdType "d" "user_id" "user_id"
  .concat [.comment ("Dimension (" ++ dimension.name ++ ")"), "\n    SELECT\n      ", ident.column,
    " as user_id,\n      d.value\n    FROM\n      (", dimension.sql, ") d\n      ", ident.join,
    "\n    "]

/-- The derived tables of a dimension and of an activation metric, where there are any. -/
def populationTables (s : Source) (a : Analysis) : Except Fault (List DerivedTable) := do
  let idType := a.experiment.userIdType
  let dimension := a.dimension.toList.map fun d =>
    DerivedTable.mk "__dimension" (s.dimensionTable d idType)
  let activation ← a.activation.toList.mapM fun m => do
    pure (DerivedTable.mk "__activationMetric" (← s.metricTable m idType))
  pure (dimension ++ activation)

end Source

namespace Analysis

/-- The join with the dimension, if there is one. -/
def dimensionJoins (a : Analysis) : List Sql :=
  if a.dimension.isSome then ["JOIN __dimension d ON (d.user_id = e.user_id)"] else []

/-- The join with the activation metric, if there is one; the activation must lie within the
experiment's conversion window. -/
def activationJoins (a : Analysis) : List Sql :=
  if a.activation.isSome then
    ["JOIN __activationMetric a ON (\n        a.user_id = e.user_id\n" ++
      "        AND a.actual_start >= e.actual_start\n" ++
      "        AND a.actual_start <= e.conversion_end\n      )"]
  else []

/-- The joins that restrict the people of an experiment. -/
def distinctUserJoins (a : Analysis) : Sql :=
  .join "\n      " (a.dimensionJoins ++ a.activationJoins)

/-- The value of the dimension; without one there is a single value. -/
def dimensionValue (a : Analysis) : Sql :=
  if a.dimension.isSome then "d.value" else .literal "All"

/-- The dimension among the columns that rows are grouped by. -/
def dimensionGroup (a : Analysis) : Sql :=
  if a.dimension.isSome then ", d.value" else .empty

/-- The part of a derived table of distinct users after its columns. -/
def distinctUsersTail (a : Analysis) : Sql :=
  .concat ["\n      FROM\n        __experiment e\n        ", a.distinctUserJoins,
    "\n      GROUP BY\n        e.variation, e.user_id", a.dimensionGroup, "\n    "]

/-- The columns that every derived table of distinct users begins with. -/
def distinctUsersHead (a : Analysis) : Sql :=
  .concat ["\n      ", .comment "One row per user/dimension/variation",
    "\n      SELECT\n        e.user_id,\n        e.variation,\n        ", a.dimensionValue,
    " as dimension"]

/-- The name that the override of a users query has. -/
def usersKey : String := "users"

end Analysis

namespace Source

def composedUsersQuery (s : Source) (a : Analysis) : Except Fault Query := do
  let experiment ← s.experimentTable a.experiment a.phase a.experiment.userIdType
  let population ← s.populationTables a
  pure {
    title := "Number of users in experiment"
    tables := ⟨"__experiment", experiment⟩ :: population ++
      [⟨"__distinctUsers", .concat [a.distinctUsersHead, a.distinctUsersTail]⟩]
    separator := Query.leadingComma
    body := .concat [.comment "Count of distinct users in experiment per variation/dimension",
      "\n    SELECT\n      variation,\n      dimension,\n      COUNT(*) as users\n    FROM\n" ++
      "      __distinctUsers\n    GROUP BY\n      variation,\n      dimension\n    "] }

/-- The derived table of each user's metric value. -/
def userMetricTable (s : Source) (m : MetricDefinition) (name comment : String)
    (columns groups : Sql) : DerivedTable :=
  ⟨name, .concat ["\n      ", .comment comment, "\n      SELECT\n        ", columns,
    m.aggregateValue "m.value", " as value\n      FROM\n        __distinctUsers d\n" ++
    "        JOIN __metric m ON (\n          ", s.conversionWindowJoin m "d" "m",
    "\n        )\n      GROUP BY\n        ", groups, "\n    "]⟩

def momentColumns : String :=
  "COUNT(*) as count,\n      AVG(value) as mean,\n      STDDEV(value) as stddev"

def composedMetricQuery (s : Source) (a : Analysis) (m : MetricDefinition) :
    Except Fault Query := do
  let idType := a.experiment.userIdType
  let experiment ← s.experimentTable a.experiment a.phase idType
  let population ← s.populationTables a
  let metric ← s.metricTable m idType
  let source := if a.activation.isSome then "a" else "e"
  let window := ",\n        MIN(" ++ source ++ ".actual_start) as actual_start,\n        MIN(" ++
    source ++ ".session_start) as session_start,\n        MIN(" ++ source ++
    ".conversion_end) as conversion_end"
  pure {
    title := m.name ++ " (" ++ m.type.name ++ ")"
    tables := ⟨"__experiment", experiment⟩ :: ⟨"__metric", metric⟩ :: population ++
      [⟨"__distinctUsers", .concat [a.distinctUsersHead, window, a.distinctUsersTail]⟩,
        s.userMetricTable m "__userMetric" "Add in the aggregate metric value for each user"
          "d.variation,\n        d.dimension,\n        " "d.variation, d.dimension, d.user_id"]
    separator := Query.leadingComma
    body := .concat [
      .comment "Sum all user metrics together to get a total per variation/dimension",
      "\n    SELECT\n      variation,\n      dimension,\n      " ++ momentColumns ++
      "\n    FROM\n      __userMetric\n    GROUP BY\n      variation,\n      dimension\n    "] }

/-- The users query of an experiment: its override, or else the composed query. -/
def experimentUsersQuery (s : Source) (a : Analysis) : Except Fault Sql := do
  match ← a.experiment.override s.dialect a.phase Analysis.usersKey a.now with
  | some sql => pure sql
  | none => pure (← s.composedUsersQuery a).sql

/-- The query for a metric of an experiment: its override, or else the composed query. -/
def experimentMetricQuery (s : Source) (a : Analysis) (m : MetricDefinition) :
    Except Fault Sql := do
  match ← a.experiment.override s.dialect a.phase m.id a.now with
  | some sql => pure sql
  | none => pure (← s.composedMetricQuery a m).sql

end Source

end SplitTest
