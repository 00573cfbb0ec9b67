import SplitTest.Schema.Checked

/-! Metrics.  A metric is read from a warehouse table: which events count is decided by conditions
on its columns, and how they count by its type.  A metric accepted by `MetricDefinition.read` has a
known operator in every condition, a cap that is not below zero, a conversion window that is not
negative, and a value column if its type needs one. -/

namespace SplitTest

/-- How the events of a user are put together. -/
inductive MetricType
  | binomial
  | count
  | duration
  | revenue
  deriving DecidableEq

def MetricType.name : MetricType → String
  | binomial => "binomial"
  | count => "count"
  | duration => "duration"
  | revenue => "revenue"

/-- The metric types by name. -/
def MetricType.words : List (String × MetricType) :=
  [("binomial", .binomial), ("count", .count), ("duration", .duration), ("revenue", .revenue)]

/-- A type whose events carry a value. -/
def MetricType.needsColumn : MetricType → Bool
  | duration | revenue => true
  | _ => false

/-- How a table tells people apart: by a user or by an anonymous visitor. -/
inductive IdType
  | user
  | anonymous
  deriving DecidableEq

def IdType.name : IdType → String
  | user => "user"
  | anonymous => "anonymous"

/-- The identifier types by name. -/
def IdType.words : List (String × IdType) :=
  [("user", .user), ("anonymous", .anonymous)]

def IdType.read : Value → Checked IdType :=
  Reader.word .enumValue IdType.words

inductive Operator
  | equal
  | notEqual
  | lessOrGreater
  | less
  | greater
  | atMost
  | atLeast
  | isMatch
  | isNoMatch
  deriving DecidableEq

def Operator.symbol : Operator → String
  | equal => "="
  | notEqual => "!="
  | lessOrGreater => "<>"
  | less => "<"
  | greater => ">"
  | atMost => "<="
  | atLeast => ">="
  | isMatch => "~"
  | isNoMatch => "!~"

/-- The operators by symbol. -/
def Operator.symbols : List (String × Operator) :=
  [("=", .equal), ("!=", .notEqual), ("<>", .lessOrGreater), ("<", .less), (">", .greater),
    ("<=", .atMost), (">=", .atLeast), ("~", .isMatch), ("!~", .isNoMatch)]

/-- Reads an operator, blanks around it being allowed. -/
def Operator.read (v : Value) : Checked Operator :=
  (Reader.text v).andThen fun s =>
    match Operator.symbols.lookup (Text.trim s) with
    | some o => .ok o
    | none =>
      .problem (.rule ("unsupported condition operator: " ++ Text.quoted (Text.trim s)))

/-- A condition on a column of the metric's table. -/
structure MetricCondition where
  column : String
  operator : Operator
  value : String
  deriving DecidableEq

namespace MetricCondition

/-- Reads a condition; its value may be anything that has a text. -/
def read : Value → Checked MetricCondition :=
  Reader.object fun fields =>
    mk <$> Reader.required "column" Reader.text fields
      <*> Reader.required "operator" Operator.read fields
      <*> Reader.required "value" (fun v => .ok v.display) fields

/-- The fields of a condition. -/
def toValue (c : MetricCondition) : Value :=
  .object [("column", .text c.column), ("operator", .text c.operator.symbol),
    ("value", .text c.value)]

end MetricCondition

structure MetricDefinition where
  id : String
  name : String
  type : MetricType
  table : String
  column : Option String
  conditions : List MetricCondition
  userIdType : IdType
  userIdColumn : Option String
  anonymousIdColumn : Option String
  timestampColumn : Option String
  /-- The largest value that a user may contribute; there is no limit if it is absent or zero. -/
  cap : Option Double
  conversionDelayHours : Int
  conversionWindowHours : Int
  earlyStart : Bool
  ignoreNulls : Bool
  deriving DecidableEq

namespace MetricDefinition

/-- Refuses a value for which a rule does not hold. -/
def keep {α : Type} (holds : α → Bool) (rule : String) (x : Checked α) : Checked α :=
  x.andThen fun a => if holds a then .ok a else .problem (.rule rule)

/-- Reads a number of hours that is not negative. -/
def readWindow (v : Value) : Checked Int :=
  keep (0 ≤ ·) "conversion_window_hours must be >= 0" (Reader.int v)

def readCap (v : Value) : Checked (Option Double) :=
  (keep (!·.isNegative) "cap must be >= 0" (Reader.double v)).map some

def hasColumn (m : MetricDefinition) : Bool :=
  (m.column.getD "") != ""

/-- The conversion window of a definition that does not state one. -/
def defaultWindow : Int := 72

/-- Reads the fields of a metric, each by itself. -/
def readFields (fields : List (String × Value)) : Checked MetricDefinition :=
  mk <$> Reader.required "id" Reader.text fields
    <*> Reader.required "name" Reader.text fields
    <*> Reader.required "type" (Reader.word .enumValue MetricType.words) fields
    <*> Reader.required "table" Reader.text fields
    <*> Reader.withDefault "column" none (Reader.optional Reader.text) fields
    <*> Reader.withDefault "conditions" [] (Reader.list MetricCondition.read) fields
    <*> Reader.withDefault "user_id_type" .user IdType.read fields
    <*> Reader.withDefault "user_id_column" none (Reader.optional Reader.text) fields
    <*> Reader.withDefault "anonymous_id_column" none (Reader.optional Reader.text) fields
    <*> Reader.withDefault "timestamp_column" none (Reader.optional Reader.text) fields
    <*> Reader.withDefault "cap" none readCap fields
    <*> Reader.withDefault "conversion_delay_hours" 0 Reader.int fields
    <*> Reader.withDefault "conversion_window_hours" defaultWindow readWindow fields
    <*> Reader.withDefault "early_start" false Reader.bool fields
    <*> Reader.withDefault "ignore_nulls" false Reader.bool fields

def read : Value → Checked MetricDefinition :=
  Reader.object fun fields =>
    (readFields fields).andThen fun m =>
      if m.type.needsColumn && !m.hasColumn then
        .problem (.rule (m.type.name ++ " metrics need a value column"))
      else .ok m

/-- A text that may be absent. -/
def optionalText (s : Option String) : Value :=
  match s with
  | some s => .text s
  | none => .null

/-- The fields of a metric. -/
def toValue (m : MetricDefinition) : Value :=
  .object [("id", .text m.id), ("name", .text m.name), ("type", .text m.type.name),
    ("table", .text m.table), ("column", optionalText m.column),
    ("conditions", .list (m.conditions.map MetricCondition.toValue)),
    ("user_id_type", .text m.userIdType.name), ("user_id_column", optionalText m.userIdColumn),
    ("anonymous_id_column", optionalText m.anonymousIdColumn),
    ("timestamp_column", optionalText m.timestampColumn),
    ("cap", match m.cap with | some x => .float x | none => .int 0),
    ("conversion_delay_hours", .int m.conversionDelayHours),
    ("conversion_window_hours", .int m.conversionWindowHours),
    ("early_start", .bool m.earlyStart), ("ignore_nulls", .bool m.ignoreNulls)]

end MetricDefinition

end SplitTest
