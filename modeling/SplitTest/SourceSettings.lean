import SplitTest.Fault
import SplitTest.Schema.Metric

/-! Settings of a data source: where its tracking tables live and what their columns are called.  A
settings document has one section per table and a default section.  `SourceSettings.resolve` reads a
document in which a field that is null or empty counts as absent; a column is then looked up in the
metric, in the section of its table, in the default section and among the built-in names, and the
first name that is not empty is taken. -/

namespace SplitTest

/-- A section of a settings document. -/
inductive Section
  | default
  | experiments
  | users
  | pageviews
  | identifies
  deriving DecidableEq

/-- The sections by name, in order. -/
def Section.names : List (String × Section) :=
  [("default", .default), ("experiments", .experiments), ("users", .users),
    ("pageviews", .pageviews), ("identifies", .identifies)]

/-- What a column holds. -/
inductive ColumnRole
  | userId
  | anonymousId
  | timestamp
  deriving DecidableEq

def ColumnRole.builtin : ColumnRole → String
  | userId => "user_id"
  | anonymousId => "anonymous_id"
  | timestamp => "received_at"

/-- The role of the column that identifies people. -/
def IdType.role : IdType → ColumnRole
  | user => .userId
  | anonymous => .anonymousId

/-- The role of the identifier column with a given type name; every name but that of users means
anonymous visitors. -/
def ColumnRole.ofIdName (name : String) : ColumnRole :=
  if name == "user" then .userId else .anonymousId

/-- The column names that a section may give. -/
structure Columns where
  timestamp : Option String
  userId : Option String
  anonymousId : Option String
  deriving DecidableEq

namespace Columns

/-- The name of the column with a role. -/
def get (c : Columns) : ColumnRole → Option String
  | .userId => c.userId
  | .anonymousId => c.anonymousId
  | .timestamp => c.timestamp

/-- Reads the column names of a section. -/
def read (fields : List (String × Value)) : Checked Columns :=
  let column (name : String) :=
    Reader.withDefault name none (Reader.optional Reader.text) fields
  mk <$> column "timestamp_column" <*> column "user_id_column" <*> column "anonymous_id_column"

/-- Reads the column names of the default section, which are texts. -/
def readDefault (fields : List (String × Value)) : Checked Columns :=
  let column (name : String) (role : ColumnRole) :=
    (Reader.withDefault name role.builtin Reader.text fields).map some
  mk <$> column "timestamp_column" .timestamp <*> column "user_id_column" .userId
    <*> column "anonymous_id_column" .anonymousId

/-- The fields for the column names. -/
def toFields (c : Columns) : List (String × Value) :=
  [("timestamp_column", MetricDefinition.optionalText c.timestamp),
    ("user_id_column", MetricDefinition.optionalText c.userId),
    ("anonymous_id_column", MetricDefinition.optionalText c.anonymousId)]

end Columns

/-- How the variation column names a variation: by its position or by its key. -/
inductive VariationFormat
  | index
  | key
  deriving DecidableEq

def VariationFormat.name : VariationFormat → String
  | index => "index"
  | key => "key"

/-- The variation formats by name. -/
def VariationFormat.words : List (String × VariationFormat) :=
  [("index", .index), ("key", .key)]

/-- The section of the table in which views of experiments are tracked. -/
structure ExperimentsSection extends Columns where
  table : String
  experimentIdColumn : String
  variationColumn : String
  variationFormat : VariationFormat
  deriving DecidableEq

def ExperimentsSection.read : Value → Checked ExperimentsSection :=
  Reader.object fun fields =>
    mk <$> Columns.read fields
      <*> Reader.withDefault "table" "experiment_viewed" Reader.text fields
      <*> Reader.withDefault "experiment_id_column" "experiment_id" Reader.text fields
      <*> Reader.withDefault "variation_column" "variation_id" Reader.text fields
      <*> Reader.withDefault "variation_format" .index
        (Reader.word .literalValue VariationFormat.words) fields

/-- A section of a table without columns of its own. -/
structure TableSection extends Columns where
  table : String
  deriving DecidableEq

/-- Reads the section, given the built-in name of the table. -/
def TableSection.read (table : String) : Value → Checked TableSection :=
  Reader.object fun fields =>
    mk <$> Columns.read fields <*> Reader.withDefault "table" table Reader.text fields

/-- The section of the table in which page views are tracked. -/
structure PageviewsSection extends Columns where
  table : String
  urlColumn : String
  deriving DecidableEq

def PageviewsSection.read : Value → Checked PageviewsSection :=
  Reader.object fun fields =>
    mk <$> Columns.read fields
      <*> Reader.withDefault "table" "pages" Reader.text fields
      <*> Reader.withDefault "url_column" "path" Reader.text fields

structure SourceSettings where
  default : Columns
  experiments : ExperimentsSection
  users : TableSection
  pageviews : PageviewsSection
  identifies : TableSection
  deriving DecidableEq

namespace SourceSettings

/-- A section that is absent is read like one without fields. -/
def readSection {α : Type} (name : String) (read : Value → Checked α)
    (fields : List (String × Value)) : Checked α :=
  match Value.field? name fields with
  | some v => (read v).under name
  | none => (read (.object [])).under name

/-- Reads settings as they stand: an empty name is a name. -/
def read : Value → Checked SourceSettings :=
  Reader.object fun fields =>
    mk <$> readSection "default" (Reader.object Columns.readDefault) fields
      <*> readSection "experiments" ExperimentsSection.read fields
      <*> readSection "users" (TableSection.read "users") fields
      <*> readSection "pageviews" PageviewsSection.read fields
      <*> readSection "identifies" (TableSection.read "identifies") fields

/-- A field that is null or an empty text counts as absent. -/
def isUnset : Value → Bool
  | .null => true
  | .text s => s.isEmpty
  | _ => false

def setFields (fields : List (String × Value)) (name : String) :
    Except Fault (List (String × Value)) :=
  match Value.field? name fields with
  | none => .ok []
  | some v =>
    if v.isEmpty then .ok []
    else match v with
      | .object given => .ok (given.filter fun f => !isUnset f.2)
      | _ => .error .wrongShape

/-- The fields of a settings document; an empty value counts as an empty document. -/
def documentFields (raw : Value) : Except Fault (List (String × Value)) :=
  if raw.isEmpty then .ok []
  else match raw with
    | .object fields => .ok fields
    | _ => .error .wrongShape

/-- A settings document that has every section, each with its set fields only. -/
def merged (raw : Value) : Except Fault Value := do
  let fields ← documentFields raw
  let sections ← Section.names.mapM fun (name, _) => do
    let set ← setFields fields name
    pure (name, Value.object set)
  pure (.object sections)

/-- Turns a checked result into one that names the fault. -/
def accepted {α : Type} : Checked α → Except Fault α
  | .ok a => .ok a
  | .failed issues => .error (.refused issues)

/-- Resolves a settings document: fields that are not set take their defaults. -/
def resolve (raw : Value) : Except Fault SourceSettings := do
  let document ← merged raw
  accepted (read document)

/-- The column names of a section. -/
def columnsOf (s : SourceSettings) : Section → Columns
  | .default => s.default
  | .experiments => s.experiments.toColumns
  | .users => s.users.toColumns
  | .pageviews => s.pageviews.toColumns
  | .identifies => s.identifies.toColumns

/-- A metric's own name for a column. -/
def metricColumn? (metric : Option MetricDefinition) (role : ColumnRole) : Option String :=
  metric.bind fun m =>
    match role with
    | .userId => m.userIdColumn
    | .anonymousId => m.anonymousIdColumn
    | .timestamp => m.timestampColumn

def firstNonEmpty (last : String) : List (Option String) → String
  | [] => last
  | some s :: rest => if s.isEmpty then firstNonEmpty last rest else s
  | none :: rest => firstNonEmpty last rest

/-- The name of the column with a role, in a section and for a metric. -/
def column (s : SourceSettings) (role : ColumnRole) (sect : Section)
    (metric : Option MetricDefinition) : String :=
  firstNonEmpty role.builtin
    [metricColumn? metric role, (s.columnsOf sect).get role, s.default.get role]

/-- The name of the column with a role, in a section given by name; the section is looked at only
if the metric has no name for the column. -/
def columnIn? (s : SourceSettings) (role : ColumnRole) (sect : String)
    (metric : Option MetricDefinition) : Except Fault String :=
  match Section.names.lookup sect with
  | some sect => .ok (s.column role sect metric)
  | none =>
    let own := firstNonEmpty "" [metricColumn? metric role]
    if own.isEmpty then .error .wrongShape else .ok own

/-- The name of the column that identifies people by a given type. -/
def idColumn (s : SourceSettings) (idType : IdType) (sect : Section)
    (metric : Option MetricDefinition) : String :=
  s.column idType.role sect metric

/-- The name of the column that holds the time of a row. -/
def timestampColumn (s : SourceSettings) (sect : Section) (metric : Option MetricDefinition) :
    String :=
  s.column .timestamp sect metric

/-- The name of the column that holds the variation. -/
def variationColumn (s : SourceSettings) : String :=
  s.experiments.variationColumn

/-- The name of the column that holds the experiment. -/
def experimentIdColumn (s : SourceSettings) : String :=
  s.experiments.experimentIdColumn

/-- The settings as a document. -/
def toValue (s : SourceSettings) : Value :=
  .object [("default", .object s.default.toFields),
    ("experiments", .object (s.experiments.toFields ++
      [("table", .text s.experiments.table),
        ("experiment_id_column", .text s.experiments.experimentIdColumn),
        ("variation_column", .text s.experiments.variationColumn),
        ("variation_format", .text s.experiments.variationFormat.name)])),
    ("users", .object (s.users.toFields ++ [("table", .text s.users.table)])),
    ("pageviews", .object (s.pageviews.toFields ++
      [("table", .text s.pageviews.table), ("url_column", .text s.pageviews.urlColumn)])),
    ("identifies", .object (s.identifies.toFields ++ [("table", .text s.identifies.table)]))]

end SourceSettings

end SplitTest
