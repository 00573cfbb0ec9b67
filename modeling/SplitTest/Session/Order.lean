import SplitTest.Session

/-! Sessions, order by order.  The definitions of an order may be documents, which are read when its
turn comes.  An order takes two things from the occasion: the current time, where none is given, and
the meaning of texts that leave out parts of a time. -/

namespace SplitTest

/-- What an order finds when its turn comes. -/
structure Occasion where
  /-- The time on the clock as the query at each position is composed. -/
  now : Nat → DateTime
  /-- The time that a text means. -/
  read? : String → Option DateTime

/-- A definition, or a document that is read as one. -/
inductive Given (α : Type)
  | definition (a : α)
  | document (v : Value)

namespace Given

variable {α : Type}

def read (readDocument : Value → Except Fault α) : Given α → Except Fault α
  | .definition a => .ok a
  | .document v => readDocument v

end Given

/-- A step of a session, with what it is given. -/
inductive Order
  | sourceProperties
  | testConnection
  | runAll (queries : List String)
  | runUsersQuery (query : String)
  | runMetricValueQuery (query : String)
  | pastExperiments (dateFrom : DateTime)
  | estimateImpact (metric : Given MetricDefinition) (segment : Option (Given SegmentDefinition))
      (urlRegex : Option String) (now : Option DateTime)
  | experimentResults (config : Given AnalysisConfig) (now : Option DateTime)

/-- An order and the occasion on which its turn comes. -/
structure Turn where
  order : Order
  occasion : Occasion

/-- The request of an order, if its documents are accepted. -/
def Turn.request (t : Turn) : Except Fault Request :=
  match t.order with
  | .sourceProperties => .ok .sourceProperties
  | .testConnection => .ok .testConnection
  | .runAll queries => .ok (.runAll queries)
  | .runUsersQuery query => .ok (.runUsersQuery query)
  | .runMetricValueQuery query => .ok (.runMetricValueQuery query)
  | .pastExperiments dateFrom => .ok (.pastExperiments dateFrom t.occasion.read?)
  | .estimateImpact metric segment urlRegex now => do
    let metric ← metric.read fun v => SourceSettings.accepted (MetricDefinition.read v)
    let segment ← segment.mapM fun given =>
      given.read fun v => SourceSettings.accepted (SegmentDefinition.read v)
    pure (.estimateImpact { metric, segment, urlRegex, now := now.getD (t.occasion.now 0) })
  | .experimentResults config now => do
    let config ← config.read AnalysisConfig.read
    pure (.experimentResults config fun i => now.getD (t.occasion.now i))

/-- What comes of an order: what was done for it, and the report for people, where there is one. -/
structure Account where
  step : Step
  report : Option (Except Fault String)

/-- The account of an order for which nothing is sent. -/
def Account.refused (f : Fault) : Account := ⟨⟨[], [], .error f⟩, none⟩

def Account.of (request : Request) (step : Step) : Account :=
  { step, report := step.outcome.toOption.bind fun reply => reply.report? request }

namespace Session

/-- Carries out an order; documents that are refused leave the session as it is. -/
def obey (s : Session) (turn : Turn) : Session × Account :=
  match turn.request with
  | .error f => (s, .refused f)
  | .ok request => ((s.step request).1, .of request (s.step request).2)

/-- Carries out orders one after another. -/
def carryOut (s : Session) : List Turn → List Account
  | [] => []
  | turn :: rest => (s.obey turn).2 :: (s.obey turn).1.carryOut rest

end Session

end SplitTest
