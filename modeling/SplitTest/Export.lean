import SplitTest.Results.Merge
import SplitTest.Value.Json

/-! Results as a JSON document.  Each record of a metric carries the metric's name beside its id. -/

namespace SplitTest

/-- The results of an experiment, and the SQL that led to them. -/
structure ExperimentResults where
  results : List DimensionResult
  query : String
  deriving DecidableEq

namespace Export

/-- The name of a metric, or its id if it has none. -/
def nameOf (names : List (String × String)) (id : String) : String :=
  (names.lookup id).getD id

/-- A record of a metric. -/
def metricValue (names : List (String × String)) (m : VariationMetric) : Value :=
  .object [("metric", .text m.metric), ("count", .int m.count), ("mean", .float m.mean),
    ("stddev", .float m.stddev), ("name", .text (nameOf names m.metric))]

def variationValue (names : List (String × String)) (v : VariationResult) : Value :=
  .object [("variation", .int v.variation), ("users", .int v.users),
    ("metrics", .list (v.metrics.map (metricValue names)))]

/-- A bucket. -/
def dimensionValue (names : List (String × String)) (d : DimensionResult) : Value :=
  .object [("dimension", .text d.dimension),
    ("variations", .list (d.variations.map (variationValue names)))]

/-- The results as a document. -/
def toValue (names : List (String × String)) (r : ExperimentResults) : Value :=
  .object [("results", .list (r.results.map (dimensionValue names))), ("query", .text r.query)]

def text (names : List (String × String)) (r : ExperimentResults) : String :=
  (toValue names r).render (.indented 2)

end Export

end SplitTest
