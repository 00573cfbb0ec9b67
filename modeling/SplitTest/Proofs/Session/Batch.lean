import SplitTest.Proofs.Except
import SplitTest.Session

/-! What requests send and what they make of the answers.  A request whose queries can all be
composed sends them in one batch, in a fixed order, and its answers are taken apart by that order;
one that has a query which cannot be composed sends nothing.  The audit text of a reply is the
script of the queries that were sent. -/

namespace SplitTest

/-- The queries of a request, in the order in which they are sent. -/
inductive Composes (s : Source) : Request → List String → Prop
  | sourceProperties : Composes s .sourceProperties []
  | testConnection : Composes s .testConnection ["select 1"]
  | runAll {queries : List String} : Composes s (.runAll queries) queries
  | runUsersQuery {query : String} : Composes s (.runUsersQuery query) [query]
  | runMetricValueQuery {query : String} : Composes s (.runMetricValueQuery query) [query]
  | pastExperiments {dateFrom : DateTime} {read? : String → Option DateTime} {query : Query}
      (h : s.pastExperimentsQuery dateFrom = .ok query) :
      Composes s (.pastExperiments dateFrom read?) [query.sql.text]
  | estimateImpact {r : ImpactRequest} {base : UsersQueryParams} {traffic site pages : Query}
      (hbase : Impact.baseParams r = .ok base)
      (htraffic : s.usersQuery (Impact.usersParams r base) = .ok traffic)
      (hsite : s.metricValueQuery (Impact.siteParams r base) = .ok site)
      (hpages : s.metricValueQuery (Impact.pagesParams r base) = .ok pages) :
      Composes s (.estimateImpact r) [traffic.sql.text, site.sql.text, pages.sql.text]
  | experimentResults {c : AnalysisConfig} {now : Nat → DateTime} {metrics : List Sql}
      {users : Sql} (hmetrics : List.Forall₂
        (fun m query => s.experimentMetricQuery (c.analysis (now m.2)) m.1 = .ok query)
        c.metrics.zipIdx metrics)
      (husers : s.experimentUsersQuery (c.analysis (now c.metrics.length)) = .ok users) :
      Composes s (.experimentResults c now) (metrics.map Sql.text ++ [users.text])

/-- The log entries before a request sends its queries. -/
def Request.announced : Request → List LogEntry
  | .experimentResults c _ => [Plan.announcement c]
  | _ => []

/-- What a request makes of the rows of its answers, given the queries that it has sent. -/
inductive Concludes (s : Source) (queries : List String) :
    Request → List (List Row) → Conclusion → Prop
  | sourceProperties :
      Concludes s queries .sourceProperties [] (.silent (.ok (.properties s.dialect)))
  | testConnection {rows : List Row} :
      Concludes s queries .testConnection [rows] (.silent (.ok .connected))
  | runAll {sent : List String} {answers : List (List Row)} :
      Concludes s queries (.runAll sent) answers (.silent (.ok (.rows answers)))
  | runUsersQuery {query : String} {rows : List Row} :
      Concludes s queries (.runUsersQuery query) [rows]
        (.silent ((UsersResult.ofRows rows).map .users))
  | runMetricValueQuery {query : String} {rows : List Row} :
      Concludes s queries (.runMetricValueQuery query) [rows]
        (.silent ((MetricValueResult.ofRows rows).map .metricValue))
  | pastExperiments {dateFrom : DateTime} {read? : String → Option DateTime} {rows : List Row}
      {experiments : List PastExperiment}
      (h : PastExperiment.ofRowsBy read? rows = .ok experiments) :
      Concludes s queries (.pastExperiments dateFrom read?) [rows]
        ⟨[⟨.info, "Found " ++ toString experiments.length ++ " past experiment variations since " ++
          dateFrom.text⟩], .ok (.pastExperiments experiments (Audit.script queries))⟩
  | pastExperimentsFault {dateFrom : DateTime} {read? : String → Option DateTime}
      {rows : List Row} {f : Fault} (h : PastExperiment.ofRowsBy read? rows = .error f) :
      Concludes s queries (.pastExperiments dateFrom read?) [rows] (.silent (.error f))
  | impact {r : ImpactRequest} {traffic site pages : List Row} {e : ImpactEstimate}
      (h : Impact.estimate? traffic site pages = .ok (some e)) :
      Concludes s queries (.estimateImpact r) [traffic, site, pages]
        (.silent (.ok (.impact e (Audit.script queries))))
  | impactNoData {r : ImpactRequest} {traffic site pages : List Row}
      (h : Impact.estimate? traffic site pages = .ok none) :
      Concludes s queries (.estimateImpact r) [traffic, site, pages]
        ⟨[⟨.info, "Impact estimation for " ++ r.metric.id ++ " returned no data"⟩],
          .ok (.impact Impact.noData (Audit.script queries))⟩
  | impactFault {r : ImpactRequest} {traffic site pages : List Row} {f : Fault}
      (h : Impact.estimate? traffic site pages = .error f) :
      Concludes s queries (.estimateImpact r) [traffic, site, pages] (.silent (.error f))
  | experiment {c : AnalysisConfig} {now : Nat → DateTime} {metricRows : List (List Row)}
      {usersRows : List Row} {state : Merge.State} (hcount : metricRows.length = c.metrics.length)
      (h : (Merge.Context.ofExperiment s.settings c.experiment).merge (c.metrics.map (·.id))
        metricRows usersRows = (state, none)) :
      Concludes s queries (.experimentResults c now) (metricRows ++ [usersRows])
        ⟨state.warnings, .ok (.experiment ⟨state.buckets, Audit.script queries⟩)⟩
  | experimentFault {c : AnalysisConfig} {now : Nat → DateTime} {metricRows : List (List Row)}
      {usersRows : List Row} {state : Merge.State} {f : Fault}
      (hcount : metricRows.length = c.metrics.length)
      (h : (Merge.Context.ofExperiment s.settings c.experiment).merge (c.metrics.map (·.id))
        metricRows usersRows = (state, some f)) :
      Concludes s queries (.experimentResults c now) (metricRows ++ [usersRows])
        ⟨state.warnings, .error f⟩

/-- A plan carries out its request. -/
structure Plan.Fits (s : Source) (request : Request) (plan : Plan) : Prop where
  composes : Composes s request plan.queries
  log : plan.log = request.announced
  concludes : ∀ answers, answers.length = plan.queries.length →
    Concludes s plan.queries request answers (plan.conclude answers)

namespace Plan

variable {s : Source}

end Plan

end SplitTest
