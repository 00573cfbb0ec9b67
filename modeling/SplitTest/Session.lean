import SplitTest.Audit
import SplitTest.Export
import SplitTest.ForkJoin
import SplitTest.Query.Discovery
import SplitTest.Report
import SplitTest.Schema.AnalysisConfig

/-! Sessions with a warehouse.  A request is planned first: either it is refused, and nothing is
sent, or it has a batch of queries, all of which are sent before any answer arrives.  When all
answers are in, the plan turns the rows into a reply; when one is an error, the request ends with
the first error.  The warehouse's answers are numbered by the queries in the order in which they are
sent. -/

namespace SplitTest

/-- What a session is asked for. -/
inductive Request
  | sourceProperties
  | testConnection
  | runAll (queries : List String)
  | runUsersQuery (query : String)
  | runMetricValueQuery (query : String)
  /-- `read?` reads the texts of times in the answer. -/
  | pastExperiments (dateFrom : DateTime) (read? : String → Option DateTime)
  | estimateImpact (request : ImpactRequest)
  /-- `now` is the current time of the query at each position. -/
  | experimentResults (config : AnalysisConfig) (now : Nat → DateTime)

/-- What a request results in. -/
inductive Reply
  | properties (dialect : Dialect)
  | connected
  | rows (answers : List (List Row))
  | users (result : UsersResult)
  | metricValue (result : MetricValueResult)
  | pastExperiments (experiments : List PastExperiment) (query : String)
  | impact (estimate : ImpactEstimate) (query : String)
  | experiment (results : ExperimentResults)

/-- A reply or a fault, with the log entries on the way to it. -/
structure Conclusion where
  log : List LogEntry
  outcome : Except Fault Reply

/-- The queries of a request, and what is made of their answers. -/
structure Plan where
  queries : List String
  /-- The log entries before the queries are sent. -/
  log : List LogEntry
  conclude : List (List Row) → Conclusion

namespace Conclusion

/-- A conclusion without log entries. -/
def silent (outcome : Except Fault Reply) : Conclusion := ⟨[], outcome⟩

end Conclusion

namespace Plan

/-- A plan with one query. -/
def single (query : String) (conclude : List Row → Conclusion) : Plan :=
  { queries := [query], log := []
    conclude := fun answers => conclude answers.flatten }

/-- The query that tests a connection. -/
def testQuery : String := "select 1"

def pastExperiments (s : Source) (dateFrom : DateTime) (read? : String → Option DateTime) :
    Except Fault Plan := do
  let query ← s.pastExperimentsQuery dateFrom
  let text := query.sql.text
  pure (single text fun rows =>
    match PastExperiment.ofRowsBy read? rows with
    | .error f => .silent (.error f)
    | .ok experiments =>
      ⟨[⟨.info, "Found " ++ toString experiments.length ++ " past experiment variations since " ++
        dateFrom.text⟩], .ok (.pastExperiments experiments (Audit.script [text]))⟩)

/-- What is made of the answers to the three queries of an estimate. -/
def concludeImpact (metricId : String) (texts : List String) (answers : List (List Row)) :
    Conclusion :=
  match answers with
  | [users, site, pages] =>
    match Impact.estimate? users site pages with
    | .error f => .silent (.error f)
    | .ok (some e) => .silent (.ok (.impact e (Audit.script texts)))
    | .ok none =>
      ⟨[⟨.info, "Impact estimation for " ++ metricId ++ " returned no data"⟩],
        .ok (.impact Impact.noData (Audit.script texts))⟩
  | _ => .silent (.ok (.impact Impact.noData (Audit.script texts)))

def impact (s : Source) (r : ImpactRequest) : Except Fault Plan := do
  let queries ← Impact.queries s r
  let texts := queries.map fun q => q.sql.text
  pure { queries := texts, log := [], conclude := concludeImpact r.metric.id texts }

/-- The log entry that announces an analysis. -/
def announcement (c : AnalysisConfig) : LogEntry :=
  ⟨.info, "Analyzing experiment " ++ c.experiment.trackingKey ++ ": " ++
    toString c.metrics.length ++ " metrics" ++
    (match c.dimension with | some d => " by " ++ d.name | none => "")⟩

/-- What is made of the answers to the queries of an experiment, the users query being the last. -/
def concludeExperiment (s : Source) (c : AnalysisConfig) (texts : List String)
    (answers : List (List Row)) : Conclusion :=
  let context := Merge.Context.ofExperiment s.settings c.experiment
  let (state, fault) := context.merge (c.metrics.map (·.id)) answers.dropLast
    (answers.getLast?.getD [])
  match fault with
  | some f => ⟨state.warnings, .error f⟩
  | none => ⟨state.warnings, .ok (.experiment ⟨state.buckets, Audit.script texts⟩)⟩

/-- The plan of an analysis: a query for each metric, and the users query. -/
def experiment (s : Source) (c : AnalysisConfig) (now : Nat → DateTime) : Except Fault Plan := do
  let metrics ← c.metrics.zipIdx.mapM fun (m, i) => s.experimentMetricQuery (c.analysis (now i)) m
  let users ← s.experimentUsersQuery (c.analysis (now c.metrics.length))
  let texts := (metrics ++ [users]).map Sql.text
  pure { queries := texts, log := [announcement c], conclude := concludeExperiment s c texts }

def ofRequest (s : Source) : Request → Except Fault Plan
  | .sourceProperties =>
    .ok { queries := [], log := [], conclude := fun _ => .silent (.ok (.properties s.dialect)) }
  | .testConnection => .ok (single testQuery fun _ => .silent (.ok .connected))
  | .runAll queries =>
    .ok { queries, log := [], conclude := fun answers => .silent (.ok (.rows answers)) }
  | .runUsersQuery query =>
    .ok (single query fun rows => .silent ((UsersResult.ofRows rows).map .users))
  | .runMetricValueQuery query =>
    .ok (single query fun rows => .silent ((MetricValueResult.ofRows rows).map .metricValue))
  | .pastExperiments dateFrom read? => pastExperiments s dateFrom read?
  | .estimateImpact request => impact s request
  | .experimentResults config now => experiment s config now

end Plan

/-- A session: its source, the warehouse's answers, and the number of queries sent. -/
structure Session where
  source : Source
  answers : List (Branch (List Row))
  sent : Nat

/-- What a request did. -/
structure Step where
  queries : List String
  log : List LogEntry
  outcome : Except Fault Reply

namespace Session

/-- The answer to a query by its number; a query without an answer has no rows. -/
def answer (s : Session) (number : Nat) : Branch (List Row) :=
  (s.answers[number]?).getD ⟨0, .ok []⟩

/-- The answers to the next queries. -/
def nextAnswers (s : Session) (count : Nat) : List (Branch (List Row)) :=
  (List.range count).map fun i => s.answer (s.sent + i)

/-- Carries out a request. -/
def step (s : Session) (request : Request) : Session × Step :=
  match Plan.ofRequest s.source request with
  | .error f => (s, ⟨[], [], .error f⟩)
  | .ok plan =>
    let count := plan.queries.length
    let next := { s with sent := s.sent + count }
    match (ForkJoin.run (s.nextAnswers count)).result with
    | .error f => (next, ⟨plan.queries, plan.log, .error f⟩)
    | .ok answers =>
      let conclusion := plan.conclude answers
      (next, ⟨plan.queries, plan.log ++ conclusion.log, conclusion.outcome⟩)

/-- Carries out requests in order. -/
def run (s : Session) : List Request → List Step
  | [] => []
  | request :: rest =>
    let (s, result) := s.step request
    result :: s.run rest

end Session

/-- The text that reports a reply to people, where there is one. -/
def Reply.report? (request : Request) : Reply → Option (Except Fault String)
  | .pastExperiments experiments _ => some (.ok (Report.pastExperiments experiments))
  | .impact estimate _ =>
    match request with
    | .estimateImpact r => some (.ok (Report.impact r.metric estimate))
    | _ => none
  | .experiment results =>
    match request with
    | .experimentResults c _ => some (Report.experiment c.experiment c.metrics results.results)
    | _ => none
  | _ => none

end SplitTest
