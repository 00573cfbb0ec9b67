import SplitTest.Log.Level
import SplitTest.Log.Template
import SplitTest.Value.Json

/-! Log records and the lines they are written as.  The message of a record is a template with its
arguments; a record whose template and arguments do not fit, or whose time is outside the calendar,
has no line. -/

namespace SplitTest.Log

/-- A failure that a record reports. -/
structure Report where
  kind : String
  message : String

/-- The failure in one text: its kind, and its message where it has one.  The message of a missing
key is the key as it is shown. -/
def Report.text (r : Report) : String :=
  let message := if r.kind == "KeyError" then Text.quoted r.message else r.message
  if message.isEmpty then r.kind else r.kind ++ ": " ++ message

structure Record where
  logger : String
  level : Level
  template : String
  arguments : List Value
  /-- The time in seconds since the start of 1970, in UTC. -/
  created : Double
  report : Option Report

namespace Record

/-- The message, if the template and its arguments fit.  Without arguments the template is the
message. -/
def message? (r : Record) : Option String :=
  match r.arguments with
  | [] => some r.template
  | args => fill? r.template args

/-- The day on which times of records start to count, by its number. -/
def epochDay : Nat := 719162

/-- The time a number of seconds after the start of 1970. -/
def timeAt? (seconds : Int) (micro : Fin 1000000) : Option DateTime :=
  DateTime.ofClock? (epochDay * secondsPerDay + seconds) micro

/-- The second in which the record was made. -/
def second? (r : Record) : Option DateTime :=
  r.created.units?.bind fun n => timeAt? (n / Double.one) ⟨0, by decide⟩

/-- The time at which the record was made, to the nearest microsecond. -/
def time? (r : Record) : Option DateTime := do
  let n ← r.created.units?
  let fraction ← Double.ofQuotient? (n.tmod Double.one) Double.one
  let micros ← (fraction.mul (Double.ofNat 1000000)).round?
  let micro : Fin 1000000 := ⟨(micros % 1000000).toNat, by omega⟩
  let t ← timeAt? (n.tdiv Double.one + micros / 1000000) micro
  pure { t with offset := some 0 }

/-- The record as text: time, level, logger and message, and the failure on a line of its own. -/
def textLine? (r : Record) : Option String := do
  let message ← r.message?
  let time ← r.second?
  let line := "[" ++ time.stampText ++ "] " ++ r.level.name ++ " " ++ r.logger ++ ": " ++ message
  pure (match r.report with
    | none => line
    | some report => (if line.endsWith "\n" then line else line ++ "\n") ++ report.text)

/-- The record as an object. -/
def object? (r : Record) : Option Value := do
  let time ← r.time?
  let message ← r.message?
  let exception := match r.report with
    | none => []
    | some report => [("exception", .text report.text)]
  pure (.object ([("timestamp", .text time.isoText), ("level", .text r.level.name),
    ("logger", .text r.logger), ("message", .text message)] ++ exception))

/-- The record as an object on one line. -/
def jsonLine? (r : Record) : Option String :=
  r.object?.map (Value.render .line)

end Record

end SplitTest.Log
