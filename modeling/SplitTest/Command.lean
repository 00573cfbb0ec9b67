import SplitTest.Command.Options
import SplitTest.Environment
import SplitTest.Log.Setup
import SplitTest.Session.Order
import SplitTest.Warehouse.Runner

/-! A run of the program from its command line.  The settings are read first, then the
configuration; then the warehouse is opened, and once the source is known to be sound it is closed
again whatever happens.  Nothing is printed unless the run succeeds. -/

namespace SplitTest.Command

/-- What a run finds around it. -/
structure Surroundings where
  /-- The environment variables. -/
  environment : List (String × String)
  /-- The document at a location. -/
  document : String → Except Fault Value
  connection : Warehouse.Connection
  occasion : Occasion

/-- How a run ends. -/
inductive Ending
  | done
  | stopped (stop : Stop)
  | failed (fault : Fault)

/-- What a run did. -/
structure Outcome where
  ending : Ending
  /-- What it printed. -/
  output : String
  /-- The databases it opened. -/
  opened : List String
  /-- The number of queries it sent. -/
  sent : Nat
  /-- Whether it closed the database. -/
  closed : Bool
  /-- The location and text of the results it exported. -/
  exported : Option (String × String)

/-- What a task results in. -/
structure Result where
  report : String
  query : String
  exported : Option (String × String)

namespace Task

/-- The location of the configuration; an empty one is none. -/
def config? : Task → Option String
  | experiment config _ => some config
  | pastExperiments config _ => config
  | impact config _ _ => some config

/-- The identifier of a metric in a configuration. -/
def metricId : Value → Except Fault Value
  | .object fields =>
    match Value.field? "id" fields with
    | some (.list _) => .error .wrongType
    | some (.object _) => .error .wrongType
    | some id => .ok id
    | none => .error (.missingKey "id")
  | _ => .error .wrongType

/-- The last metric of a configuration with a given identifier. -/
def metricNamed (id : String) (config : List (String × Value)) :
    Except Ending (Option Value) := do
  let metrics ← (AnalysisConfig.parts ((Value.field? "metrics" config).getD (.list []))).mapError
    .failed
  let ids ← (metrics.mapM metricId).mapError .failed
  let named := (ids.zip metrics).filter fun m =>
    match m.1 with
    | .text s => s == id
    | _ => false
  pure (named.getLast?.map Prod.snd)

def impactRequest (metric urlRegex : String) (config : List (String × Value)) (now : DateTime) :
    Except Ending Request := do
  match ← metricNamed metric config with
  | none => .error (.stopped (.refused (.unknownMetric metric)))
  | some m => do
    let metric ← (SourceSettings.accepted (MetricDefinition.read m)).mapError .failed
    let segment ← (AnalysisConfig.optional SegmentDefinition.read
      (Value.field? "segment" config)).mapError .failed
    pure (.estimateImpact { metric, segment, urlRegex := some urlRegex, now })

/-- The request that a task makes of a session. -/
def request (t : Task) (config : Value) (occasion : Occasion) : Except Ending Request :=
  match t, config with
  | experiment _ _, config =>
    ((AnalysisConfig.read config).map fun c => .experimentResults c occasion.now).mapError .failed
  | pastExperiments _ days, _ =>
    match (occasion.now 0).minusDays? days with
    | some since => .ok (.pastExperiments since occasion.read?)
    | none => .error (.failed .outOfCalendar)
  | impact _ metric urlRegex, .object fields =>
    impactRequest metric urlRegex fields (occasion.now 0)
  | impact _ _ _, _ => .error (.failed .wrongShape)

/-- Where the results of a task are exported; an empty location is none. -/
def out? : Task → Option String
  | experiment _ out => out.filter (!·.isEmpty)
  | _ => none

end Task

/-- The names of the metrics of an analysis; of two with the same identifier the last one counts. -/
def metricNames (c : AnalysisConfig) : List (String × String) :=
  (c.metrics.map fun m => (m.id, m.name)).reverse

/-- The exported text of a reply, where a task asks for it. -/
def exportedText? (t : Task) (request : Request) (reply : Reply) : Option (String × String) :=
  match t.out?, request, reply with
  | some out, .experimentResults c _, .experiment results =>
    some (out, Export.text (metricNames c) results)
  | _, _, _ => none

/-- The text of the queries behind a reply. -/
def queryOf : Reply → String
  | .pastExperiments _ query => query
  | .impact _ query => query
  | .experiment results => results.query
  | _ => ""

def resultOf (t : Task) (request : Request) (reply : Reply) : Except Fault Result :=
  match reply.report? request with
  | some report => report.map fun report =>
      { report, query := queryOf reply, exported := exportedText? t request reply }
  | none => .ok ⟨"", queryOf reply, exportedText? t request reply⟩

/-- Carries out a request on a connection, and counts the queries it sends. -/
def carryOut (s : Surroundings) (e : Environment) (source : Source) (t : Task)
    (request : Request) : Nat × Except Fault Result :=
  match Plan.ofRequest source request with
  | .error f => (0, .error f)
  | .ok plan =>
    let sent := plan.queries.length
    match (s.connection.run? e.queryTimeout sent).2 with
    | none => (sent, .error .timedOut)
    | some batch => (sent, do
        let answers ← batch.outcome
        let reply ← (plan.conclude answers).outcome
        resultOf t request reply)

/-- Settings and configuration of a run.  The words for the log are checked on the way. -/
def prepare (s : Surroundings) (t : Task) : Except Fault (Environment × Value) := do
  let e ← Environment.ofVariables s.environment
  let _ ← Log.Setup.initial.configure e.logLevel e.logFormat
  let config ← match t.config? with
    | none => pure (.object [])
    | some location => if location.isEmpty then pure (.object []) else s.document location
  pure (e, config)

/-- What a result prints. -/
def printed (showSql : Bool) (r : Result) : String :=
  r.report ++ "\n" ++ if showSql then "\n" ++ r.query ++ "\n" else ""

/-- The part of a run after the warehouse is opened. -/
def runOpened (s : Surroundings) (o : Options) (e : Environment) (config : Value)
    (opened : List String) : Outcome :=
  match e.source config with
  | .error f => ⟨.failed f, "", opened, 0, false, none⟩
  | .ok source =>
    match o.task.request config s.occasion with
    | .error ending => ⟨ending, "", opened, 0, true, none⟩
    | .ok request =>
      match carryOut s e source o.task request with
      | (sent, .error f) => ⟨.failed f, "", opened, sent, true, none⟩
      | (sent, .ok r) => ⟨.done, printed o.showSql r, opened, sent, true, r.exported⟩

def run (s : Surroundings) (args : List String) : Outcome :=
  match Options.parse args with
  | .error stop => ⟨.stopped stop, "", [], 0, false, none⟩
  | .ok o =>
    match prepare s o.task with
    | .error f => ⟨.failed f, "", [], 0, false, none⟩
    | .ok (e, config) =>
      let database := (o.database.filter (!·.isEmpty)).getD e.dbPath
      runOpened s o e config [database]

end SplitTest.Command
