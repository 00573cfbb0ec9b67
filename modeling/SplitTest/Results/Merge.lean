import SplitTest.Log
import SplitTest.Results.Cell
import SplitTest.SourceSettings
import SplitTest.Schema.Experiment

/-! Merging the rows of an experiment's queries.  Each row belongs to a cell, given by the value of
its dimension and its variation.  The users rows set the users of their cells, and the rows of each
metric add a record to theirs.  A bucket of cells, one for each variation, begins with the first row
for its dimension; a row whose variation is unknown is left out with a warning. -/

namespace SplitTest

/-- The moments of a metric for a variation. -/
structure VariationMetric where
  metric : String
  count : Int
  mean : Double
  stddev : Double
  deriving DecidableEq

/-- The users of a variation, and the metrics. -/
structure VariationResult where
  variation : Int
  users : Int
  metrics : List VariationMetric
  deriving DecidableEq

/-- The variations for a value of the dimension. -/
structure DimensionResult where
  dimension : String
  variations : List VariationResult
  deriving DecidableEq

/-- The position of the variation that a cell names, if it is one of `n`. -/
def resolveVariation (format : VariationFormat) (keys : List (String × Int)) (n : Nat) (v : Value) :
    Option (Fin n) :=
  match v with
  | .null => none
  | v =>
    let position := match format with
      | .key => keys.lookup v.display
      | .index => intOfText? (Text.trim v.display)
    position.bind fun i => if h : 0 ≤ i ∧ i.toNat < n then some ⟨i.toNat, h.2⟩ else none

namespace Merge

/-- What the rows are merged for. -/
structure Context where
  trackingKey : String
  format : VariationFormat
  keys : List (String × Int)
  variations : Nat

/-- The context of an experiment's rows. -/
def Context.ofExperiment (s : SourceSettings) (e : ExperimentDefinition) : Context :=
  { trackingKey := e.trackingKey, format := s.experiments.variationFormat
    keys := e.variationKeyMap, variations := e.variations.length }

/-- A row with what it counts. -/
inductive Item
  | users (row : Row)
  | metric (id : String) (row : Row)

def Item.row : Item → Row
  | users row => row
  | metric _ row => row

/-- The buckets so far and the warnings. -/
structure State where
  buckets : List DimensionResult
  warnings : List LogEntry

/-- The position of a row's variation. -/
def Context.place (c : Context) (row : Row) : Option (Fin c.variations) :=
  resolveVariation c.format c.keys c.variations (row.get "variation")

/-- The key of a row's dimension; a null counts as the empty text. -/
def dimensionKey (row : Row) : String :=
  match row.get "dimension" with
  | .null => ""
  | v => v.display

/-- The cells of a bucket before any row. -/
def emptyCells (n : Nat) : List VariationResult :=
  (List.range n).map fun (i : Nat) => VariationResult.mk i 0 []

/-- Changes a cell, in a new bucket if there is none for the key. -/
def changeCell (n : Nat) (key : String) (i : Nat) (change : VariationResult → VariationResult) :
    List DimensionResult → List DimensionResult
  | [] => [⟨key, (emptyCells n).modify i change⟩]
  | b :: rest =>
    if b.dimension = key then ⟨key, b.variations.modify i change⟩ :: rest
    else b :: changeCell n key i change rest

/-- What an item does to its cell. -/
def Item.change : Item → Except Fault (VariationResult → VariationResult)
  | users row => do
    let users ← Cell.toInt (row.get "users")
    pure fun r => { r with users }
  | metric id row => do
    let count ← Cell.toInt (row.get "count")
    let mean ← Cell.toDouble (row.get "mean")
    let stddev ← Cell.toDouble (row.get "stddev")
    pure fun r => { r with metrics := r.metrics ++ [⟨id, count, mean, stddev⟩] }

/-- The warning about a row whose variation is unknown. -/
def Context.warning (c : Context) (row : Row) : LogEntry :=
  ⟨.warning, "Unexpected variation " ++ (row.get "variation").shown ++ " in experiment " ++
    c.trackingKey⟩

/-- Merges one item. -/
def Context.step (c : Context) (s : State) (item : Item) : Except Fault State :=
  match c.place item.row with
  | none => .ok { s with warnings := s.warnings ++ [c.warning item.row] }
  | some i => do
    let change ← item.change
    pure { s with buckets := changeCell c.variations (dimensionKey item.row) i change s.buckets }

/-- Merges items in order.  A fault ends the merge; the state up to it is kept. -/
def Context.run (c : Context) (s : State) : List Item → State × Option Fault
  | [] => (s, none)
  | item :: rest =>
    match c.step s item with
    | .ok s => c.run s rest
    | .error f => (s, some f)

/-- The items of the users rows and of each metric's rows, in order. -/
def items (metricIds : List String) (metricRows : List (List Row)) (usersRows : List Row) :
    List Item :=
  usersRows.map .users ++
    (metricIds.zip metricRows).flatMap fun (id, rows) => rows.map (.metric id)

/-- Merges the rows of an experiment's queries. -/
def Context.merge (c : Context) (metricIds : List String) (metricRows : List (List Row))
    (usersRows : List Row) : State × Option Fault :=
  c.run ⟨[], []⟩ (items metricIds metricRows usersRows)

end Merge

end SplitTest
