import SplitTest.Command
import SplitTest.Value.Json
import SplitTest.Warehouse.Answer
import SplitTest.Warehouse.Location

/-! The program.  The first line of standard input is the current time, and each line after it is
the warehouse's answer to one query, in the order in which the queries are sent.  The report goes to
standard output and everything else to standard error. -/

namespace SplitTest.Program

/-- The environment variables that settings are read from. -/
def variableNames : List String :=
  ["ANALYSIS_DB_PATH", "ANALYSIS_DIALECT", "ANALYSIS_QUERY_TIMEOUT_SECONDS",
    "ANALYSIS_BIGQUERY_PROJECT", "ANALYSIS_BIGQUERY_DATASET", "ANALYSIS_LOG_LEVEL",
    "ANALYSIS_LOG_FORMAT"]

/-- The variables that are set. -/
def readVariables : IO (List (String × String)) :=
  variableNames.filterMapM fun name => do
    return (← IO.getEnv name).map fun value => (name, value)

/-- The document at a location. -/
def readDocument (location : String) : IO (Except Fault Value) := do
  try
    let text ← IO.FS.readFile location
    return match Value.parse? text with
      | some v => .ok v
      | none => .error .malformedDocument
  catch _ => return .error .documentNotFound

/-- The document of the configuration that a command line names. -/
def readConfig (args : List String) : IO (Except Fault Value) :=
  match (Command.Options.parse args).toOption.bind fun o => o.task.config? with
  | some location => readDocument location
  | none => return .error .documentNotFound

/-- The number of queries that run at a time. -/
def workers : Nat := 32

/-- The lines of a stream. -/
partial def readLines (input : IO.FS.Stream) : IO (List String) := do
  let line ← input.getLine
  if line.isEmpty then return []
  return Text.trim line :: (← readLines input)

/-- Writes exported results. -/
def writeResults (location text : String) : IO Unit := do
  let folder := Warehouse.Location.join (Warehouse.Location.root location)
    (Warehouse.Location.names location).dropLast
  IO.FS.createDirAll folder
  IO.FS.writeFile location text

/-- Tells how a run ended, and gives the exit code. -/
def conclude (ending : Command.Ending) : IO UInt32 := do
  match ending with
  | .done => return 0
  | .stopped .help =>
    IO.println ("commands: " ++ ", ".intercalate Command.commandNames)
    return 0
  | .stopped (.refused fault) =>
    IO.eprintln ("error: " ++ fault.message)
    return 2
  | .failed fault =>
    IO.eprintln ("error: " ++ fault.message)
    return 1

end SplitTest.Program

/-- Runs the program. -/
def main (args : List String) : IO UInt32 := do
  let lines ← SplitTest.Program.readLines (← IO.getStdin)
  let config ← SplitTest.Program.readConfig args
  let answers := lines.tail.map fun line => (SplitTest.Value.parse? line).getD .null
  let now := (SplitTest.DateTime.ofIso? (lines.headD "")).getD default
  let outcome := SplitTest.Command.run
    { environment := ← SplitTest.Program.readVariables
      document := fun _ => config
      connection := ⟨SplitTest.Program.workers, answers.map SplitTest.Warehouse.Query.ofDocument, 0⟩
      occasion := ⟨fun _ => now, SplitTest.Lenient.read? ⟨now.date, now.date.year⟩⟩ } args
  IO.print outcome.output
  if let some (location, text) := outcome.exported then
    SplitTest.Program.writeResults location text
  SplitTest.Program.conclude outcome.ending
