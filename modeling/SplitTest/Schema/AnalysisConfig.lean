import SplitTest.Query.Experiment

/-! Analysis documents: an experiment with one of its phases, the metrics, and the population to
which the analysis is restricted or by which it is split. -/

namespace SplitTest

/-- What an analysis document asks for. -/
structure AnalysisConfig where
  experiment : ExperimentDefinition
  phase : ExperimentPhase
  metrics : List MetricDefinition
  activation : Option MetricDefinition
  dimension : Option DimensionDefinition

namespace AnalysisConfig

open SourceSettings (accepted)

/-- The parts that a value has when it is gone through: the items of a list, the keys of an object,
the characters of a text. -/
def parts : Value → Except Fault (List Value)
  | .list items => .ok items
  | .object fields => .ok (fields.map fun f => .text f.1)
  | .text s => .ok (s.toList.map fun c => .text (String.singleton c))
  | _ => .error .wrongType

/-- A definition that is left out when the field is absent or empty. -/
def optional {α : Type} (read : Value → Checked α) (v : Option Value) : Except Fault (Option α) :=
  match v with
  | none => .ok none
  | some v => if v.isEmpty then .ok none else (accepted (read v)).map some

/-- The position of the phase that a document without one means: the last. -/
def lastPhase : Value := .int (-1)

/-- The metrics of a document. -/
def readMetrics (fields : List (String × Value)) : Except Fault (List MetricDefinition) := do
  let given ← parts ((Value.field? "metrics" fields).getD (.list []))
  given.mapM fun m => accepted (MetricDefinition.read m)

def readFields (fields : List (String × Value)) : Except Fault AnalysisConfig := do
  let experiment ← match Value.field? "experiment" fields with
    | some e => accepted (ExperimentDefinition.read e)
    | none => .error (.missingKey "experiment")
  if experiment.phases.isEmpty then .error (.noPhases experiment.trackingKey)
  else
    let phase ← elementAt experiment.phases ((Value.field? "phase" fields).getD lastPhase)
    let metrics ← readMetrics fields
    let activation ← optional MetricDefinition.read (Value.field? "activation_metric" fields)
    let dimension ← optional DimensionDefinition.read (Value.field? "dimension" fields)
    pure { experiment, phase, metrics, activation, dimension }

def read : Value → Except Fault AnalysisConfig
  | .object fields => readFields fields
  | _ => .error .wrongType

/-- The analysis that a document asks for at a time. -/
def analysis (c : AnalysisConfig) (now : DateTime) : Analysis :=
  { experiment := c.experiment, phase := c.phase, activation := c.activation
    dimension := c.dimension, now }

end AnalysisConfig

end SplitTest
