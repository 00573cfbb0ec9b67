import SplitTest.Schema.Experiment

/-! Parameters of the exploratory queries: which pages and which days are looked at, for whom, and
how far conversions may lie from a visit. -/

namespace SplitTest

/-- Parameters of a query for the visitors of pages. -/
structure UsersQueryParams where
  name : String
  dateFrom : DateTime
  dateTo : DateTime
  urlRegex : Option String
  segment : Option SegmentDefinition
  userIdType : IdType
  conversionWindowHours : Int
  includeByDate : Bool
  deriving DecidableEq

namespace UsersQueryParams

/-- Reads the parameters from the fields of an object. -/
def readFields (fields : List (String × Value)) : Checked UsersQueryParams :=
  mk <$> Reader.required "name" Reader.text fields
    <*> Reader.required "date_from" Reader.time fields
    <*> Reader.required "date_to" Reader.time fields
    <*> Reader.withDefault "url_regex" none (Reader.optional Reader.text) fields
    <*> Reader.withDefault "segment" none (Reader.optional SegmentDefinition.read) fields
    <*> Reader.withDefault "user_id_type" .user IdType.read fields
    <*> Reader.withDefault "conversion_window_hours" MetricDefinition.defaultWindow Reader.int
      fields
    <*> Reader.withDefault "include_by_date" false Reader.bool fields

def read : Value → Checked UsersQueryParams :=
  Reader.object readFields

/-- The fields of the parameters. -/
def toFields (p : UsersQueryParams) : List (String × Value) :=
  [("name", .text p.name), ("date_from", .datetime p.dateFrom), ("date_to", .datetime p.dateTo),
    ("url_regex", MetricDefinition.optionalText p.urlRegex),
    ("segment", match p.segment with | some s => s.toValue | none => .null),
    ("user_id_type", .text p.userIdType.name),
    ("conversion_window_hours", .int p.conversionWindowHours),
    ("include_by_date", .bool p.includeByDate)]

/-- The parameters as an object. -/
def toValue (p : UsersQueryParams) : Value :=
  .object p.toFields

end UsersQueryParams

/-- Parameters of a query for the value of a metric among the visitors of pages. -/
structure MetricValueParams extends UsersQueryParams where
  metric : MetricDefinition
  includePercentiles : Bool
  deriving DecidableEq

namespace MetricValueParams

def read : Value → Checked MetricValueParams :=
  Reader.object fun fields =>
    mk <$> UsersQueryParams.readFields fields
      <*> Reader.required "metric" MetricDefinition.read fields
      <*> Reader.withDefault "include_percentiles" true Reader.bool fields

/-- The parameters as an object. -/
def toValue (p : MetricValueParams) : Value :=
  .object (p.toFields ++
    [("metric", p.metric.toValue), ("include_percentiles", .bool p.includePercentiles)])

end MetricValueParams

end SplitTest
