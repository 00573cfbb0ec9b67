import SplitTest.Impact
import SplitTest.Results.Merge
import SplitTest.Results.Rows

/-! Reports as text for people. -/

namespace SplitTest.Report

open Text

/-- The line that opens and closes a section. -/
def rule : String :=
  String.ofList (List.replicate 60 '=')

/-- The name of the last metric with an id, or the id. -/
def metricName (metrics : List MetricDefinition) (id : String) : String :=
  ((metrics.filter (·.id = id)).getLast?.map (·.name)).getD id

def metricLine (metrics : List MetricDefinition) (m : VariationMetric) : String :=
  "    " ++ padRight 24 (metricName metrics m.metric) ++
    " count=" ++ padRight 8 (toString m.count) ++
    " mean=" ++ padRight 12 (m.mean.fixed 4) ++ " stddev=" ++ m.stddev.fixed 4

/-- The variation at a position; a negative position counts from the end. -/
def variationAt (e : ExperimentDefinition) (i : Int) : Except Fault Variation :=
  elementAt e.variations (.int i)

def variationLines (e : ExperimentDefinition) (metrics : List MetricDefinition)
    (v : VariationResult) : Except Fault (List String) := do
  let variation ← variationAt e v.variation
  pure (("  Variation " ++ toString v.variation ++ " (" ++ variation.key ++ "): " ++
    toString v.users ++ " users") :: v.metrics.map (metricLine metrics))

/-- The lines of a bucket. -/
def dimensionLines (e : ExperimentDefinition) (metrics : List MetricDefinition)
    (d : DimensionResult) : Except Fault (List String) := do
  let lines ← d.variations.mapM (variationLines e metrics)
  pure (["", "DIMENSION: " ++ d.dimension] ++ lines.flatten)

def experimentLines (e : ExperimentDefinition) (metrics : List MetricDefinition)
    (results : List DimensionResult) : Except Fault (List String) := do
  let buckets ← results.mapM (dimensionLines e metrics)
  pure ([rule, "EXPERIMENT: " ++ e.trackingKey, rule] ++
    (if results.isEmpty then ["  No data"] else []) ++ buckets.flatten ++ [rule])

def experiment (e : ExperimentDefinition) (metrics : List MetricDefinition)
    (results : List DimensionResult) : Except Fault String :=
  (experimentLines e metrics results).map "\n".intercalate

/-- A day, or a question mark if it is unknown. -/
def dayText (t : Option DateTime) : String :=
  match t with
  | some t => t.date.isoText
  | none => "?"

def pastLine (experimentId variationId startDate endDate users : String) : String :=
  padRight 24 experimentId ++ " " ++ padRight 12 variationId ++ " " ++
    padRight 12 startDate ++ " " ++
    padRight 12 endDate ++ " " ++ users

def pastExperiments (experiments : List PastExperiment) : String :=
  if experiments.isEmpty then "No past experiments found."
  else "\n".intercalate (pastLine "EXPERIMENT" "VARIATION" "START" "END" "USERS" ::
    experiments.map fun e =>
      pastLine e.experimentId e.variationId (dayText e.startDate) (dayText e.endDate)
        (toString e.users))

/-- The report of an impact estimate. -/
def impact (metric : MetricDefinition) (r : ImpactEstimate) : String :=
  "\n".intercalate ["IMPACT ESTIMATE: " ++ metric.name,
    "  Daily users on selected pages:   " ++ r.users.fixed 1,
    "  Daily metric value (pages):      " ++ r.value.fixed 2,
    "  Daily metric value (site-wide):  " ++ r.metricTotal.fixed 2]

end SplitTest.Report
