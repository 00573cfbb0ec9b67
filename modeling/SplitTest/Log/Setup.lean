import SplitTest.Log.Record

/-! The configuration of the log.  It says from which level on records are written, by which
handlers, and which loggers there are and have a level of their own; a logger without one takes that
of the nearest logger above it.  A call changes the configuration step by step, and ends where a
step is refused. -/

namespace SplitTest.Log

/-- How a handler writes records. -/
inductive RecordLayout
  | text
  | json
  deriving DecidableEq

/-- A handler writes the records from its level on. -/
structure Handler where
  level : Level
  layout : RecordLayout
  deriving DecidableEq

/-- The configuration of the log. -/
structure Setup where
  /-- The level of the logger above all others. -/
  rootLevel : Level
  handlers : List Handler
  /-- The loggers that there are and their own levels; a level of zero is none. -/
  levels : List (String × Level)
  deriving DecidableEq

/-- The loggers that stay quiet below `WARNING`. -/
def quietLoggers : List String :=
  ["duckdb", "sqlparse", "asyncio"]

/-- The layout a word of the configuration stands for, in whatever case it is written. -/
def RecordLayout.ofWord (word : String) : RecordLayout :=
  if Text.lower word == "json" then .json else .text

/-- The line of a record in a layout. -/
def RecordLayout.line? (layout : RecordLayout) (r : Record) : Option String :=
  match layout with
  | text => r.textLine?
  | json => r.jsonLine?

namespace Setup

/-- The configuration before any call: nothing is handled. -/
def initial : Setup := ⟨.warning, [], []⟩

/-- Sets the level from which on records are taken, if the word stands for one. -/
def setRootLevel (word : String) (s : Setup) : Except Fault Setup :=
  (Level.ofWord word).map fun level => { s with rootLevel := level }

/-- Takes all handlers away. -/
def clearHandlers (s : Setup) : Except Fault Setup :=
  .ok { s with handlers := [] }

/-- Adds a handler, if the word for its level stands for one. -/
def addHandler (word : String) (layout : RecordLayout) (s : Setup) : Except Fault Setup :=
  (Level.ofWord word).map fun level => { s with handlers := s.handlers ++ [⟨level, layout⟩] }

/-- Keeps a logger quiet below `WARNING`. -/
def quieten (logger : String) (s : Setup) : Except Fault Setup :=
  .ok { s with levels := assign logger .warning s.levels }

/-- The steps of a call, in order. -/
def steps (level layout : String) : List (Setup → Except Fault Setup) :=
  [setRootLevel level, clearHandlers, addHandler level (.ofWord layout)] ++
    quietLoggers.map quieten

/-- Takes steps in order.  A fault ends them; what they have changed up to it is kept. -/
def take (s : Setup) : List (Setup → Except Fault Setup) → Setup × Option Fault
  | [] => (s, none)
  | step :: rest =>
    match step s with
    | .ok s => s.take rest
    | .error f => (s, some f)

/-- A call with a level and a layout, both given by words. -/
def call (s : Setup) (level layout : String) : Setup × Option Fault :=
  s.take (steps level layout)

/-- The configuration after a call, if it is not refused. -/
def configure (s : Setup) (level layout : String) : Except Fault Setup :=
  match s.call level layout with
  | (s, none) => .ok s
  | (_, some f) => .error f

/-- The loggers above one, nearest first, by its name and theirs with the last character first.  A
logger stands above another if its name is followed by a point in the other's name; where there is
no such logger, the search goes on before the last character of its name. -/
def above (s : Setup) : List Char → List (List Char)
  | [] => []
  | [_] => []
  | '.' :: c :: rest =>
    if (s.levels.lookup (String.ofList (c :: rest).reverse)).isSome then
      (c :: rest) :: s.above (c :: rest)
    else s.above rest
  | _ :: c :: rest => s.above (c :: rest)

/-- A logger and those above it, nearest first. -/
def lineage (s : Setup) (logger : String) : List String :=
  logger :: (s.above logger.toList.reverse).map fun cs => String.ofList cs.reverse

/-- The level that a logger has of its own, if it is not zero. -/
def ownLevel? (s : Setup) (logger : String) : Option Level :=
  (s.levels.lookup logger).filter (· != 0)

/-- The level from which on a logger takes records. -/
def effectiveLevel (s : Setup) (logger : String) : Level :=
  ((s.lineage logger).findSome? s.ownLevel?).getD s.rootLevel

/-- Whether a logger takes a record. -/
def isEnabled (s : Setup) (r : Record) : Bool :=
  0 < r.level && s.effectiveLevel r.logger ≤ r.level

/-- The handlers that are to write a record. -/
def takers (s : Setup) (r : Record) : List Handler :=
  if s.isEnabled r then s.handlers.filter (·.level ≤ r.level) else []

/-- What a handler writes for a record: its line, or a complaint if the record has none. -/
def outputBy (complain : Handler → Record → String) (h : Handler) (r : Record) : String :=
  match h.layout.line? r with
  | some line => line ++ "\n"
  | none => complain h r

def write (complain : Handler → Record → String) (s : Setup) (r : Record) : String :=
  String.join ((s.takers r).map (outputBy complain · r))

/-- The configuration after a logger is asked for: there is one with the name. -/
def meet (s : Setup) (logger : String) : Setup :=
  if (s.levels.lookup logger).isSome then s
  else { s with levels := s.levels ++ [(logger, 0)] }

/-- What is written for records in order. -/
def writeAll (complain : Handler → Record → String) (s : Setup) : List Record → String
  | [] => ""
  | r :: rest =>
    let s := s.meet r.logger
    s.write complain r ++ s.writeAll complain rest

end Setup

end SplitTest.Log
