import SplitTest.Schema.Metric

/-! Experiments, and the populations that queries are restricted to or split by.  An experiment
accepted by `ExperimentDefinition.read` has at least one variation and a conversion window that is
not negative. -/

namespace SplitTest

structure Variation where
  key : String
  name : String
  deriving DecidableEq

namespace Variation

def read : Value → Checked Variation :=
  Reader.object fun fields =>
    mk <$> Reader.required "key" Reader.text fields
      <*> Reader.withDefault "name" "" Reader.text fields

/-- A bare key stands for an object that has only this key. -/
def expand : Value → Value
  | .text s => .object [("key", .text s)]
  | .int n => .object [("key", .text (toString n))]
  | .bool b => .object [("key", .text (Value.bool b).display)]
  | v => v

/-- Reads the variations of an experiment, of which there must be one. -/
def readAll (v : Value) : Checked (List Variation) :=
  let v := match v with
    | .list items => .list (items.map expand)
    | v => v
  (Reader.list read v).andThen fun vs => if vs.isEmpty then .problem .tooShort else .ok vs

/-- The fields of a variation. -/
def toValue (v : Variation) : Value :=
  .object [("key", .text v.key), ("name", .text v.name)]

end Variation

/-- A period in which an experiment runs. -/
structure ExperimentPhase where
  dateStarted : DateTime
  dateEnded : Option DateTime
  deriving DecidableEq

namespace ExperimentPhase

def read : Value → Checked ExperimentPhase :=
  Reader.object fun fields =>
    mk <$> Reader.required "date_started" Reader.time fields
      <*> Reader.withDefault "date_ended" none (Reader.optional Reader.time) fields

/-- The fields of a phase. -/
def toValue (p : ExperimentPhase) : Value :=
  .object [("date_started", .datetime p.dateStarted),
    ("date_ended", match p.dateEnded with | some t => .datetime t | none => .null)]

end ExperimentPhase

structure ExperimentDefinition where
  id : String
  trackingKey : String
  userIdType : IdType
  variations : List Variation
  phases : List ExperimentPhase
  conversionWindowHours : Int
  /-- The texts that replace composed queries, by metric id; `users` is the key of the users
  query. -/
  sqlOverride : List (String × String)
  deriving DecidableEq

namespace ExperimentDefinition

/-- Reads an experiment. -/
def read : Value → Checked ExperimentDefinition :=
  Reader.object fun fields =>
    mk <$> Reader.required "id" Reader.text fields
      <*> Reader.required "tracking_key" Reader.text fields
      <*> Reader.withDefault "user_id_type" .anonymous IdType.read fields
      <*> Reader.required "variations" Variation.readAll fields
      <*> Reader.withDefault "phases" [] (Reader.list ExperimentPhase.read) fields
      <*> Reader.withDefault "conversion_window_hours" MetricDefinition.defaultWindow
        MetricDefinition.readWindow fields
      <*> Reader.withDefault "sql_override" [] Reader.textMap fields

/-- The fields of an experiment. -/
def toValue (e : ExperimentDefinition) : Value :=
  .object [("id", .text e.id), ("tracking_key", .text e.trackingKey),
    ("user_id_type", .text e.userIdType.name),
    ("variations", .list (e.variations.map Variation.toValue)),
    ("phases", .list (e.phases.map ExperimentPhase.toValue)),
    ("conversion_window_hours", .int e.conversionWindowHours),
    ("sql_override", .object (e.sqlOverride.map fun (key, s) => (key, .text s)))]

/-- Puts the key of each variation, with its position, into a map in which the last variation with a
key counts. -/
def keyMapFrom (acc : List (String × Int)) (index : Nat) : List Variation → List (String × Int)
  | [] => acc
  | v :: rest => keyMapFrom (assign v.key (index : Int) acc) (index + 1) rest

/-- The position of each variation by its key. -/
def variationKeyMap (e : ExperimentDefinition) : List (String × Int) :=
  keyMapFrom [] 0 e.variations

end ExperimentDefinition

/-- SQL that yields a user and a value of the dimension in each row. -/
structure DimensionDefinition where
  name : String
  sql : String
  userIdType : IdType
  deriving DecidableEq

namespace DimensionDefinition

def read : Value → Checked DimensionDefinition :=
  Reader.object fun fields =>
    mk <$> Reader.required "name" Reader.text fields
      <*> Reader.required "sql" Reader.text fields
      <*> Reader.withDefault "user_id_type" .user IdType.read fields

/-- The fields of a dimension. -/
def toValue (d : DimensionDefinition) : Value :=
  .object [("name", .text d.name), ("sql", .text d.sql), ("user_id_type", .text d.userIdType.name)]

end DimensionDefinition

/-- SQL that yields a user and the date from which the user is in the segment in each row. -/
structure SegmentDefinition where
  name : String
  sql : String
  userIdType : IdType
  deriving DecidableEq

namespace SegmentDefinition

def read : Value → Checked SegmentDefinition :=
  Reader.object fun fields =>
    mk <$> Reader.required "name" Reader.text fields
      <*> Reader.required "sql" Reader.text fields
      <*> Reader.withDefault "user_id_type" .user IdType.read fields

/-- The fields of a segment. -/
def toValue (s : SegmentDefinition) : Value :=
  .object [("name", .text s.name), ("sql", .text s.sql), ("user_id_type", .text s.userIdType.name)]

end SegmentDefinition

end SplitTest
