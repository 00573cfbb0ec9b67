import SplitTest.Query.Identity
import SplitTest.Text.Replace

/-! The value of a metric in SQL.  Each event has a raw value; the events of a user within the
conversion window are put together to one value, which may be capped. -/

namespace SplitTest

/-- A number as SQL writes it: a whole number by its digits, any other by its shortest text. -/
def numberText (x : Double) : String :=
  if x.isWhole then
    match x.truncate? with
    | some n => toString n
    | none => x.text
  else x.text

/-- A value limited by a cap; a cap of zero is none. -/
def capValue (cap : Double) (value : Sql) : Sql :=
  if cap.isZero then value else .concat ["LEAST(", numberText cap, ", ", value, ")"]

namespace MetricDefinition

/-- The mark in a column expression for the name of the metric's table. -/
def aliasMark : String := "\x7balias\x7d"

/-- The cap; a metric without one has the cap zero. -/
def capOrZero (m : MetricDefinition) : Double :=
  m.cap.getD Double.zero

/-- A column of the table called `tableName`.  A column expression names the table by a mark. -/
def columnSql (column tableName : String) : Sql :=
  if Text.contains aliasMark column then Text.replaceAll aliasMark tableName column
  else .concat [tableName, ".", column]

/-- The metric's value column; there must be one. -/
def valueColumn (m : MetricDefinition) (tableName : String) : Except Fault Sql :=
  match m.column with
  | some column => .ok (columnSql column tableName)
  | none => .error .wrongType

/-- The value of an event. -/
def rawValue (m : MetricDefinition) (tableName : String) : Except Fault Sql :=
  match m.type with
  | .count => if m.hasColumn then m.valueColumn tableName else .ok "1"
  | .duration | .revenue => m.valueColumn tableName
  | .binomial => .ok "1"

/-- The value of a user, from the column of the values of the user's events. -/
def aggregateValue (m : MetricDefinition) (column : Sql) : Sql :=
  match m.type with
  | .count =>
    capValue m.capOrZero
      (if m.hasColumn then .concat ["COUNT(DISTINCT ", column, ")"] else "COUNT(*)")
  | .duration | .revenue => capValue m.capOrZero (.concat ["MAX(", column, ")"])
  | .binomial => "1"

end MetricDefinition

namespace Source

/-- A condition on a column of the table called `tableName`. -/
def condition (s : Source) (tableName : String) (c : MetricCondition) : Sql :=
  let column : Sql := tableName ++ "." ++ c.column
  match c.operator with
  | .isMatch => s.dialect.regexMatch column c.value
  | .isNoMatch => .concat ["NOT (", s.dialect.regexMatch column c.value, ")"]
  | operator => .concat [column, " ", operator.symbol, " ", .literal c.value]

/-- All conditions of a metric. -/
def conditions (s : Source) (m : MetricDefinition) (tableName : String) : Sql :=
  .join " AND " (m.conditions.map (s.condition tableName))

/-- The condition that an event belongs to a user and lies in the user's conversion window.  The
window opens at the start of the user, or of the user's session, shifted by the conversion delay,
and closes the conversion window's hours after the delayed start. -/
def conversionWindowJoin (s : Source) (m : MetricDefinition) (users events : String) : Sql :=
  let start : Sql := users ++ "." ++ (if m.earlyStart then "session_start" else "actual_start")
  let first := if m.conversionDelayHours = 0 then start
    else s.dialect.addHours start m.conversionDelayHours
  let last := s.dialect.addHours (users ++ ".actual_start" : String)
    (m.conversionDelayHours + m.conversionWindowHours)
  .concat [events ++ ".user_id = " ++ users ++ ".user_id\n      AND " ++ events ++
      ".actual_start >= ", first, "\n      AND " ++ events ++ ".actual_start <= ", last]

/-- The table of a metric's events: the person, the value, and the three times. -/
def metricTable (s : Source) (m : MetricDefinition) (idType : IdType) : Except Fault Sql := do
  let ident := s.reconcile idType m.userIdType "m"
    (s.settings.idColumn m.userIdType .default m) (s.settings.idColumn idType .default m)
  let time : Sql := "m." ++ s.settings.timestampColumn .default m
  let value ← m.rawValue "m"
  let filter : Sql :=
    if m.conditions.isEmpty then .empty else .concat ["WHERE\n      ", s.conditions m "m"]
  pure (.concat [.comment ("Metric (" ++ m.name ++ ")"), "\n    SELECT\n      ", ident.column,
    " as user_id,\n      ", value, " as value,\n      ", time, " as actual_start,\n      ",
    s.dialect.addHours time m.conversionWindowHours, " as conversion_end,\n      ",
    s.dialect.subtractMinutes time Dialect.sessionMinutes, " as session_start\n    FROM\n      ",
    s.dialect.fullTableName m.table, " m\n      ", ident.join, "\n    ", filter, "\n    "])

end Source

end SplitTest
